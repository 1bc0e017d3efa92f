import AppliverySoar.Access.Rbac
import AppliverySoar.Js.Json

/-!
# Walking all pages of a list (appliveryPaginate.ts)

`fetchAllPages` asks for one page after the other and stops at a page without items, at a
page whose container has no `hasNextPage`, at a page that fails and at the ceiling. The
last two are logged. Whether there is a next page is read from `data.data ?? data`, the
items from wherever `extractItems` finds them.

Results:
* `stop_of_walkPages`, `walkPages_of_stop`: a walk ends without a word at a page that stops
  it, and there only.
* `complete_iff_nothing_left`: when such a walk has collected everything.
* `empty_page_hides_rest`: a list cut short in silence.
-/

namespace AppliverySoar.Services

open Access Js

/-- What a page answers. -/
structure PageResponse where
  status : ℕ
  data : Value

/-- What `fetchAllPages` throws: its own error, or that of the request. -/
inductive PageError
  | http (e : HttpError)
  | request (message : String)
  deriving DecidableEq, Repr

/-- The container in which `hasNextPage` is looked for. -/
def pageContainer (data : Value) : Value :=
  match data with
  | .obj _ => (data.member "data").orElse data
  | _ => data

def hasNext (data : Value) : Bool :=
  match pageContainer data with
  | .obj fields => ((Value.obj fields).member "hasNextPage").truthy
  | _ => false

/-- The walk from `page` on, with `left` pages up to the ceiling. -/
def walkPages (get : ℕ → Except String PageResponse) (url : String) (stringify : Value → String)
    (pageLimit maxPages : ℕ) : ℕ → ℕ → List Value → Except PageError (List Value) × List String
  | 0, _, allItems => (.ok allItems, [])
  | left + 1, page, allItems =>
    match get page with
    | .error e => (.error (.request e), [])
    | .ok res =>
      if res.status ≠ 200 then
        if page = 1 then
          (.error (.http ⟨502, "Applivery API returned " ++ toString res.status ++ ": " ++
            String.ofList ((stringify res.data).toList.take 300)⟩), [])
        else (.ok allItems, ["[fetchAllPages] " ++ url ++ ": page " ++ toString page ++
          " failed (HTTP " ++ toString res.status ++ ") after collecting " ++
          toString allItems.length ++ " item(s) from prior pages — stopping early. Results are INCOMPLETE, not a full fleet/list."])
      else
        let items := extractItems res.data
        if items.isEmpty then (.ok allItems, [])
        else if !hasNext res.data then (.ok (allItems ++ items), [])
        else
          let (result, logged) := walkPages get url stringify pageLimit maxPages left (page + 1)
            (allItems ++ items)
          if page = maxPages then
            (result, ("[fetchAllPages] " ++ url ++ ": hit the " ++ toString maxPages ++
              "-page safety ceiling (" ++ toString (allItems ++ items).length ++
              " item(s) collected) but the API still reports more pages remaining — results are INCOMPLETE. Raise maxPages if this fleet/list is genuinely larger than " ++
              toString (maxPages * pageLimit) ++ " records.") :: logged)
          else (result, logged)

/-- `fetchAllPages`: its result, and what it logs. -/
def fetchAllPages (get : ℕ → Except String PageResponse) (url : String)
    (stringify : Value → String) (pageLimit maxPages : ℕ) :
    Except PageError (List Value) × List String :=
  walkPages get url stringify pageLimit maxPages maxPages 1 []

/-! ## The collection -/

/-- The envelope says that there is a next page, in the body itself or in its `data`. -/
def SaysNext (data : Value) : Prop :=
  (data.member "hasNextPage").truthy = true ∨
    ((data.member "data").member "hasNextPage").truthy = true

/-- The pages from this one up to the first whose envelope says that there is no next one have
all succeeded, and carry these items. -/
inductive Collects (get : ℕ → Except String PageResponse) : ℕ → List Value → Prop
  | last {page : ℕ} {res : PageResponse} : get page = .ok res → res.status = 200 →
      ¬SaysNext res.data → Collects get page (extractItems res.data)
  | next {page : ℕ} {res : PageResponse} {items : List Value} : get page = .ok res →
      res.status = 200 → SaysNext res.data → Collects get (page + 1) items →
      Collects get page (extractItems res.data ++ items)

/-- The walk goes on after this page, having taken its items. -/
def GoesOn (get : ℕ → Except String PageResponse) (page : ℕ) : Prop :=
  ∃ res, get page = .ok res ∧ res.status = 200 ∧ extractItems res.data ≠ [] ∧
    hasNext res.data = true

/-- The page stops the walk without a word. -/
def Stops (res : PageResponse) : Prop :=
  res.status = 200 ∧ (extractItems res.data = [] ∨ hasNext res.data = false)

section Walk

variable {get : ℕ → Except String PageResponse} {url : String} {stringify : Value → String}
  {pageLimit maxPages left page k : ℕ} {allItems items : List Value} {res : PageResponse}

/-- The container that the walk looks into is the body or its `data`. -/
theorem saysNext_of_hasNext {data : Value} (h : hasNext data = true) : SaysNext data := by
  unfold hasNext pageContainer at h
  cases data with
  | obj fields =>
    dsimp only at h
    unfold Value.orElse at h
    cases hinner : (Value.obj fields).member "data" with
    | null => rw [hinner] at h; exact .inl h
    | undefined => rw [hinner] at h; exact .inl h
    | obj inner =>
      rw [hinner] at h
      exact .inr (by rw [hinner]; exact h)
    | _ => rw [hinner] at h; cases h
  | _ => cases h

/-- A page that is followed by another has its own items and those of the rest. -/
theorem collects_iff_of_saysNext (items : List Value) (hget : get page = .ok res) (hok : res.status = 200)
    (hnext : SaysNext res.data) :
    Collects get page (extractItems res.data ++ items) ↔ Collects get (page + 1) items := by
  refine ⟨fun h => ?_, .next hget hok hnext⟩
  generalize hall : extractItems res.data ++ items = all at h
  cases h with
  | last hget' _ hlast =>
    rw [hget] at hget'
    cases hget'
    exact absurd hnext hlast
  | next hget' _ _ hrest =>
    rw [hget] at hget'
    cases hget'
    rwa [List.append_cancel_left hall]

theorem collects_iff_of_stop (hget : get page = .ok res) (hok : res.status = 200) :
    Collects get page (extractItems res.data) ↔
      (SaysNext res.data → Collects get (page + 1) []) := by
  by_cases hnext : SaysNext res.data
  · have hiff := collects_iff_of_saysNext [] hget hok hnext
    rw [List.append_nil] at hiff
    rw [hiff]
    exact ⟨fun h _ => h, fun h => h hnext⟩
  · exact iff_of_true (.last hget hok hnext) fun h => absurd h hnext

/-- A walk without a word ends at the ceiling of no pages, or at a page that stops it. -/
theorem stop_of_walkPages (hpage : left + page = maxPages + 1)
    (h : walkPages get url stringify pageLimit maxPages left page allItems = (.ok items, [])) :
    (left = 0 ∧ items = allItems) ∨ ∃ k res, page ≤ k ∧ k ≤ maxPages ∧
      (∀ j, page ≤ j → j < k → GoesOn get j) ∧ get k = .ok res ∧ Stops res := by
  induction left generalizing page allItems with
  | zero => exact .inl ⟨rfl, (Except.ok.inj (Prod.mk.inj h).1).symm⟩
  | succ left ih =>
    right
    unfold walkPages at h
    cases hget : get page with
    | error e =>
      rw [hget] at h
      cases (Prod.mk.inj h).1
    | ok res =>
      rw [hget] at h
      dsimp only at h
      by_cases hok : res.status = 200
      · rw [if_neg (not_not.mpr hok)] at h
        have hstop : Stops res → ∃ k res, page ≤ k ∧ k ≤ maxPages ∧
            (∀ j, page ≤ j → j < k → GoesOn get j) ∧ get k = .ok res ∧ Stops res := fun hstop =>
          ⟨page, res, le_rfl, by omega, fun j _ _ => by omega, hget, hstop⟩
        by_cases hempty : extractItems res.data = []
        · exact hstop ⟨hok, .inl hempty⟩
        · cases hnext : hasNext res.data with
          | false => exact hstop ⟨hok, .inr hnext⟩
          | true =>
            rw [if_neg (by simpa using hempty), if_neg (by simp [hnext])] at h
            -- at the ceiling the walk says so
            have hpage' : page ≠ maxPages := by
              intro heq
              rw [if_pos heq] at h
              cases (Prod.mk.inj h).2
            rw [if_neg hpage'] at h
            rcases ih (by omega) h with ⟨hleft, -⟩ | ⟨k, res', hk, hmax, hgoes, hget', hstops⟩
            · omega
            · refine ⟨k, res', by omega, hmax, fun j hj hlt => ?_, hget', hstops⟩
              rcases Nat.eq_or_lt_of_le hj with heq | hlt'
              · exact heq ▸ ⟨res, hget, hok, hempty, hnext⟩
              · exact hgoes j hlt' hlt
      · rw [if_pos hok] at h
        by_cases hfirst : page = 1
        · rw [if_pos hfirst] at h
          cases (Prod.mk.inj h).1
        · rw [if_neg hfirst] at h
          cases (Prod.mk.inj h).2

/-- A walk that comes to a page that stops it ends there without a word; and it has collected
everything exactly if nothing comes after that page. -/
theorem walkPages_of_stop (allItems : List Value) (hpage : left + page = maxPages + 1) (hk : page ≤ k)
    (hmax : k ≤ maxPages) (hgoes : ∀ j, page ≤ j → j < k → GoesOn get j) (hget : get k = .ok res)
    (hstop : Stops res) :
    ∃ more, walkPages get url stringify pageLimit maxPages left page allItems =
        (.ok (allItems ++ more), []) ∧
      (Collects get page more ↔ (SaysNext res.data → Collects get (k + 1) [])) := by
  induction left generalizing page allItems with
  | zero => omega
  | succ left ih =>
    unfold walkPages
    rcases Nat.eq_or_lt_of_le hk with heq | hlt
    · subst heq
      refine ⟨extractItems res.data, ?_, collects_iff_of_stop hget hstop.1⟩
      rw [hget]
      dsimp only
      rw [if_neg (not_not.mpr hstop.1)]
      by_cases hempty : extractItems res.data = []
      · rw [if_pos (by simpa using hempty), hempty, List.append_nil]
      · rw [if_neg (by simpa using hempty),
          if_pos (by simpa using hstop.2.resolve_left hempty)]
    · obtain ⟨res', hget', hok, hempty, hnext⟩ := hgoes page le_rfl hlt
      obtain ⟨more, hwalk, hiff⟩ := ih (allItems ++ extractItems res'.data)
        (by omega) hlt fun j hj hlt' => hgoes j (by omega) hlt'
      refine ⟨extractItems res'.data ++ more, ?_, ?_⟩
      · rw [hget']
        dsimp only
        rw [if_neg (not_not.mpr hok), if_neg (by simpa using hempty), if_neg (by simp [hnext]),
          hwalk, if_neg (by omega), List.append_assoc]
      · rw [collects_iff_of_saysNext more hget' hok (saysNext_of_hasNext hnext), hiff]

/-- Nothing is left when the walk stops without a word: the page that stops it is the last, or
the pages after it, up to the last, have no items. -/
def NothingLeft (get : ℕ → Except String PageResponse) (maxPages : ℕ) : Prop :=
  (maxPages = 0 → Collects get 1 []) ∧
    ∀ k res, 1 ≤ k → k ≤ maxPages → (∀ j, 1 ≤ j → j < k → GoesOn get j) → get k = .ok res →
      Stops res → SaysNext res.data → Collects get (k + 1) []

/-- **Main theorem.** What `fetchAllPages` returns without a word is the whole collection,
exactly if nothing is left where it stops. -/
theorem complete_iff_nothing_left (get : ℕ → Except String PageResponse) (url : String)
    (stringify : Value → String) (pageLimit maxPages : ℕ) :
    (∀ items, fetchAllPages get url stringify pageLimit maxPages = (.ok items, []) →
      Collects get 1 items) ↔ NothingLeft get maxPages := by
  have hpage : maxPages + 1 = maxPages + 1 := rfl
  constructor
  · intro h
    refine ⟨fun hzero => h [] ?_, fun k res hk hmax hgoes hget hstop => ?_⟩
    · rw [hzero]
      rfl
    · obtain ⟨more, hwalk, hiff⟩ := walkPages_of_stop [] hpage hk hmax hgoes hget hstop
      exact hiff.mp (h more hwalk)
  · rintro ⟨hzero, hleft⟩ items h
    rcases stop_of_walkPages hpage h with ⟨hnone, hitems⟩ | ⟨k, res, hk, hmax, hgoes, hget, hstop⟩
    · rw [hitems]
      exact hzero hnone
    · obtain ⟨more, hwalk, hiff⟩ := walkPages_of_stop [] hpage hk hmax hgoes hget hstop
      have hitems : items = more := by
        have hsame := h.symm.trans hwalk
        exact Except.ok.inj (Prod.mk.inj hsame).1
      rw [hitems]
      exact hiff.mpr (hleft k res hk hmax hgoes hget hstop)

end Walk

/-! ### A page without items -/

/-- A page of a list, in its envelope. -/
def listPage (items : List Value) (hasNextPage : Bool) : PageResponse where
  status := 200
  data := .obj [("data", .obj [("items", .arr items), ("hasNextPage", .bool hasNextPage)])]

/-- Three pages, of which the second is empty. -/
def emptyInTheMiddle : ℕ → Except String PageResponse
  | 1 => .ok (listPage [.str "d1"] true)
  | 2 => .ok (listPage [] true)
  | _ => .ok (listPage [.str "d3"] false)

/-- The list is cut at the empty page, and nothing is logged. -/
theorem empty_page_hides_rest :
    fetchAllPages emptyInTheMiddle "/mdm/devices/" (fun _ => "") 10000 100 =
        (.ok [.str "d1"], []) ∧
      Collects emptyInTheMiddle 1 [.str "d1", .str "d3"] ∧
      ¬Collects emptyInTheMiddle 1 [.str "d1"] := by
  have hnext : ∀ items, SaysNext (listPage items true).data := fun items => .inr rfl
  have hlast : ¬SaysNext (listPage [.str "d3"] false).data := by
    rintro (h | h) <;> cases h
  have hall : Collects emptyInTheMiddle 1 ([.str "d1"] ++ ([] ++ [.str "d3"])) :=
    .next rfl rfl (hnext _) (.next rfl rfl (hnext _) (.last rfl rfl hlast))
  refine ⟨rfl, hall, fun h => ?_⟩
  have hsecond : Collects emptyInTheMiddle 2 [] :=
    (collects_iff_of_saysNext [] rfl rfl (hnext [.str "d1"])).mp h
  have hthird : Collects emptyInTheMiddle 3 [] :=
    (collects_iff_of_saysNext [] rfl rfl (hnext [])).mp hsecond
  generalize hnone : ([] : List Value) = items at hthird
  cases hthird with
  | last hget _ _ =>
    cases hget
    cases hnone
  | next hget _ hmore _ =>
    cases hget
    exact hlast hmore

end AppliverySoar.Services
