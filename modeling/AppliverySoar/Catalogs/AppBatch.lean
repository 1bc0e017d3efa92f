import AppliverySoar.Catalogs.VulnService
import Mathlib.Data.List.Nodup

/-!
# Answers and the apps that they are stored for

A refresh sends a batch of apps to the Worker in chunks, puts the results of all
chunks into one list and stores the `i`-th result under the key of the `i`-th app
(vulnService.ts, lines 283–319). A Worker may leave apps of a chunk out; then every
later result moves up to the place of an app that it is not about.

Results:
* `written_queryApps`: what a query stores is the batch's keys zipped with the
  answers, if those of all chunks have come, and else nothing.
* `attributed_iff_prefix`: every stored row holds the Worker's answer for its app,
  and none is stored for an app without an answer, exactly if the apps with an
  answer come before all others.
* `answer_under_other_key`: one app left out of a chunk gets the answer of the next.
-/

namespace AppliverySoar.Catalogs

open Async Prog Compliance Js List

/-! ## Lists -/

section Lists

variable {α : Type} {n : ℕ} {l l' : List α}

theorem flatten_chunksFrom (hn : 0 < n) {fuel : ℕ} (hfuel : l.length ≤ fuel) :
    (chunksFrom n fuel l).flatten = l := by
  induction fuel generalizing l with
  | zero => exact (length_eq_zero_iff.mp (Nat.le_zero.mp hfuel)).symm
  | succ fuel ih =>
    unfold chunksFrom
    cases l with
    | nil => rfl
    | cons a l =>
      have hrest : ((a :: l).drop n).length ≤ fuel := by
        simp only [length_drop, length_cons] at hfuel ⊢
        omega
      simp only [isEmpty_cons, Bool.false_eq_true, if_false, flatten_cons, ih hrest,
        take_append_drop]

theorem flatten_chunksOf (hn : 0 < n) : (chunksOf n l).flatten = l :=
  flatten_chunksFrom hn le_rfl

/-- Part of a list without repetitions is its beginning if that beginning has
nothing but the part. -/
theorem prefix_of_take_subset (h : l'.Sublist l) (hl : l.Nodup)
    (htake : ∀ a ∈ l.take l'.length, a ∈ l') : l' <+: l := by
  induction h with
  | slnil => exact prefix_refl _
  | @cons l' l a h ih =>
    cases l' with
    | nil => exact nil_prefix
    | cons b l' =>
      have hmem : a ∈ b :: l' := htake a (by simp)
      exact absurd (h.subset hmem) (nodup_cons.mp hl).1
  | @cons_cons l' l a h ih =>
    obtain ⟨hhead, htail⟩ := nodup_cons.mp hl
    refine cons_prefix_cons.mpr ⟨rfl, ih htail fun b hb => ?_⟩
    have hmem : b ∈ a :: l' := htake b (mem_cons_of_mem _ hb)
    rcases mem_cons.mp hmem with rfl | hmem
    · exact absurd (mem_of_mem_take hb) hhead
    · exact hmem

end Lists

/-! ## The Worker -/

/-- A Worker: its answer for an app, and the apps of a chunk that it answers, in the
order of the chunk. -/
structure Worker where
  answer : AppCombo → Value
  gives : List AppCombo → List AppCombo
  gives_sublist : ∀ chunk, (gives chunk).Sublist chunk
  answer_some : ∀ combo, (answer combo).isNullish = false

/-- The answers of a Worker; the table refuses a row without a result, and takes
every other. -/
def Worker.may (worker : Worker) (c : VulnCall)
    (r : Except ServiceError (VulnCall.Answer c)) : Prop :=
  match (⟨c, r⟩ : VulnMove) with
  | ⟨.post _ _ (.apps chunk), .ok res⟩ =>
    res.status = 200 → res.results = some ((worker.gives chunk).map worker.answer)
  | ⟨.upsertCacheRow _ _ result _, .ok _⟩ => result.isNullish = false
  | ⟨.upsertCacheRow _ _ result _, .error _⟩ => result.isNullish = true
  | ⟨.now, .error _⟩ => False
  | ⟨.sleep _, .error _⟩ => False
  | _ => True

/-- The surroundings of a query. -/
def Worker.world (worker : Worker) : World vulnSig ServiceError (List VulnMove) :=
  World.answering worker.may

/-- The apps of a batch that the Worker has an answer for. -/
def Worker.answeredApps (worker : Worker) (chunkSize : ℕ) (apps : List AppCombo) :
    List AppCombo :=
  (chunksOf chunkSize apps).flatMap worker.gives

/-- The chunks whose results have come. -/
def answeredChunks (es : List VulnMove) : List (List AppCombo) :=
  es.filterMap fun
    | ⟨.post _ _ (.apps chunk), .ok res⟩ => if res.status = 200 then some chunk else none
    | _ => none

/-- The rows that were stored. -/
def written (es : List VulnMove) : List (String × Value) :=
  es.filterMap fun
    | ⟨.upsertCacheRow _ key result _, .ok _⟩ => some (key, result)
    | _ => none

theorem answeredChunks_append (es fs : List VulnMove) :
    answeredChunks (es ++ fs) = answeredChunks es ++ answeredChunks fs :=
  filterMap_append

theorem written_append (es fs : List VulnMove) : written (es ++ fs) = written es ++ written fs :=
  filterMap_append

/-! ## A query -/

section Query

variable {r : Runtime} {worker : Worker} {es : List VulnMove} {url token workspaceSlug : String}

/-- An exchange that says nothing of apps and stores nothing. -/
def Quiet (es es' : List VulnMove) : Prop :=
  answeredChunks es' = answeredChunks es ∧ written es' = written es

theorem Quiet.snoc {es es' : List VulnMove} {e : VulnMove} (h : Quiet es es')
    (hchunk : answeredChunks [e] = []) (hwritten : written [e] = []) : Quiet es (es' ++ [e]) :=
  ⟨by rw [answeredChunks_append, hchunk, append_nil, h.1],
    by rw [written_append, hwritten, append_nil, h.2]⟩

/-- What a request for a chunk has exchanged. -/
def Asked (worker : Worker) (chunk : List AppCombo) (es : List VulnMove) :
    Except ServiceError WorkerResponse → List VulnMove → Prop
  | .ok res, es' => written es' = written es ∧
      if res.status = 200 then answeredChunks es' = answeredChunks es ++ [chunk] ∧
        res.results = some ((worker.gives chunk).map worker.answer)
      else answeredChunks es' = answeredChunks es
  | .error _, es' => Quiet es es'

variable {chunk : List AppCombo} {es' : List VulnMove}

theorem asked_of_post {a : Except ServiceError WorkerResponse} (hquiet : Quiet es es')
    (hmay : worker.may (.post url token (.apps chunk)) a) :
    Asked worker chunk es a (es' ++ [⟨.post url token (.apps chunk), a⟩]) := by
  cases a with
  | error e => exact hquiet.snoc rfl rfl
  | ok res =>
    refine ⟨?_, ?_⟩
    · rw [written_append, hquiet.2]
      exact append_nil _
    · split_ifs with hstatus
      · refine ⟨?_, hmay hstatus⟩
        rw [answeredChunks_append, hquiet.1]
        simp [answeredChunks, hstatus]
      · rw [answeredChunks_append, hquiet.1]
        simp [answeredChunks, hstatus]

theorem meets_postAttempts {pauses : List ℕ}
    (hquiet : Quiet es es') :
    (postAttempts url token (.apps chunk) pauses).Meets worker.world (fun _ _ => True) es'
      (Asked worker chunk es) := by
  induction pauses generalizing es' with
  | nil => exact ⟨trivial, fun a hmay => asked_of_post hquiet hmay⟩
  | cons pause pauses ih =>
    refine ⟨trivial, fun a hmay => ?_⟩
    have hasked := asked_of_post hquiet hmay
    cases a with
    | error e =>
      -- a failed attempt is followed by a pause
      refine Meets.call_bind trivial (fun _ h => (h : False).elim) fun _ _ => ih ?_
      exact (hquiet.snoc rfl rfl).snoc rfl rfl
    | ok res =>
      by_cases hretry : retryStatuses.contains res.status = true
      · show Meets _ _ (if _ then _ else _) _ _
        rw [if_pos hretry]
        have hstatus : res.status ≠ 200 := by
          intro h
          rw [h] at hretry
          exact absurd hretry (by decide)
        refine Meets.call_bind trivial (fun _ h => (h : False).elim) fun _ _ => ih ?_
        refine Quiet.snoc ⟨?_, hasked.1⟩ rfl rfl
        have hchunks := hasked.2
        rwa [if_neg hstatus] at hchunks
      · show Meets _ _ (if _ then _ else _) _ _
        rw [if_neg hretry]
        exact hasked

/-- The requests for all chunks end with the answers for their apps in one list, or
with a chunk whose results have not come. -/
theorem meets_fetchResults {chunks : List (List AppCombo)} :
    (fetchResults url token chunks).Meets worker.world (fun _ _ => True) [] (post
      (fun results es => written es = [] ∧ answeredChunks es = chunks ∧
        results = (chunks.flatMap worker.gives).map worker.answer)
      fun _ es => written es = [] ∧ answeredChunks es ≠ chunks) := by
  refine Meets.foldlM (fun done results es => written es = [] ∧ answeredChunks es = done ∧
      results = (done.flatMap worker.gives).map worker.answer) ⟨rfl, rfl, rfl⟩ ?_
  rintro done chunk todo rfl results es ⟨hwritten, hdone, rfl⟩
  have hshort : done ≠ done ++ chunk :: todo := by simp
  refine Meets.bind (R := fun res es' => Asked worker chunk es (.ok res) es')
    ((meets_postAttempts ⟨rfl, rfl⟩).mono fun res es' hasked => ?_) fun res es' hasked => ?_
  · cases res with
    | ok res => exact hasked
    | error e => exact ⟨hasked.2.trans hwritten, (hasked.1.trans hdone).trans_ne hshort⟩
  · obtain ⟨hsame, hchunk⟩ := hasked
    by_cases hstatus : res.status = 200
    · rw [if_pos hstatus] at hchunk
      rw [if_neg (not_not_intro hstatus), hchunk.2]
      refine ⟨hsame.trans hwritten, by rw [hchunk.1, hdone], ?_⟩
      simp
    · rw [if_neg hstatus] at hchunk
      rw [if_pos hstatus]
      exact ⟨hsame.trans hwritten, (hchunk.trans hdone).trans_ne hshort⟩

variable {batch : List (String × AppCombo)}

/-- The results from the `i`-th on are stored in the order of the batch, as far as
both go. -/
theorem meets_storeResults {results : List Value} (hsome : ∀ v ∈ results, v.isNullish = false)
    {i : ℕ} {tally : AppsTally}
    (hwritten : written es' = written es) (hchunks : answeredChunks es' = answeredChunks es) :
    (storeResults workspaceSlug results batch i tally).Meets worker.world (fun _ _ => True) es'
      fun _ fs => answeredChunks fs = answeredChunks es ∧
        written fs = written es ++ (batch.map Prod.fst).zip (results.drop i) := by
  induction batch generalizing es es' i tally with
  | nil => exact ⟨hchunks, by simp [hwritten]⟩
  | cons e batch ih =>
    obtain ⟨key, combo⟩ := e
    refine Meets.call_bind trivial (fun _ h => (h : False).elim) fun now _ => ?_
    have hquiet : Quiet es (es' ++ [⟨.now, .ok now⟩]) := Quiet.snoc ⟨hchunks, hwritten⟩ rfl rfl
    refine ⟨trivial, fun a hmay => ?_⟩
    cases hi : results[i]? with
    | none =>
      -- no result is left, and the table refuses the row
      have hdrop : results.drop i = [] := List.drop_eq_nil_of_le (List.getElem?_eq_none_iff.mp hi)
      cases a with
      | ok _ =>
        rw [hi] at hmay
        have hnullish : Value.isNullish .undefined = false := hmay
        exact absurd hnullish (by decide)
      | error e =>
        have hend := hquiet.snoc (e := ⟨.upsertCacheRow workspaceSlug key .undefined now,
          .error e⟩) rfl rfl
        exact ⟨hend.1, hend.2.trans (by simp [hdrop])⟩
    | some result =>
      obtain ⟨hlt, hget⟩ := List.getElem?_eq_some_iff.mp hi
      have hdrop : results.drop i = result :: results.drop (i + 1) := by
        rw [List.drop_eq_getElem_cons hlt, hget]
      cases a with
      | error e =>
        rw [hi] at hmay
        have hresult : result.isNullish = true := hmay
        rw [hsome result (hget ▸ List.getElem_mem hlt)] at hresult
        exact absurd hresult (by decide)
      | ok _ =>
        have hstored : written (es' ++ [⟨.now, .ok now⟩] ++ [⟨.upsertCacheRow workspaceSlug key
            result now, .ok ()⟩]) = written es ++ [(key, result)] := by
          rw [written_append, hquiet.2]
          rfl
        have hsame : answeredChunks (es' ++ [⟨.now, .ok now⟩] ++ [⟨.upsertCacheRow workspaceSlug
            key result now, .ok ()⟩]) = answeredChunks es := by
          rw [answeredChunks_append, hquiet.1]
          exact List.append_nil _
        refine (ih rfl rfl).mono fun _ fs hfs => ⟨hfs.1.trans hsame, ?_⟩
        rw [hfs.2.trans (congrArg (· ++ _) hstored), hdrop]
        simp

/-- What a query stores: the keys of the batch zipped with the answers, if the results
of all chunks have come, and nothing if not. -/
theorem written_queryApps {chunkSize : ℕ}
    {es : List VulnMove} {result : Except ServiceError AppsTally}
    (hsteps : Prog.Steps (queryApps chunkSize workspaceSlug url token batch) es (.ret result))
    (haccepts : worker.world.Accepts [] es) :
    written es = if answeredChunks es = chunksOf chunkSize (batch.map Prod.snd) then
      (batch.map Prod.fst).zip
        ((worker.answeredApps chunkSize (batch.map Prod.snd)).map worker.answer) else [] := by
  have hmeets : (queryApps chunkSize workspaceSlug url token batch).Meets worker.world
      (fun _ _ => True) [] fun _ es => written es =
        if answeredChunks es = chunksOf chunkSize (batch.map Prod.snd) then
          (batch.map Prod.fst).zip
            ((worker.answeredApps chunkSize (batch.map Prod.snd)).map worker.answer) else [] := by
    unfold queryApps
    split_ifs with hempty
    · rw [List.isEmpty_iff.mp hempty]
      exact (ite_self _).symm
    · refine Meets.bind (R := fun results es => post (fun results es => written es = [] ∧
          answeredChunks es = chunksOf chunkSize (batch.map Prod.snd) ∧
          results = (worker.answeredApps chunkSize (batch.map Prod.snd)).map worker.answer)
          (fun _ es => written es = [] ∧
            answeredChunks es ≠ chunksOf chunkSize (batch.map Prod.snd)) results es)
        (Meets.attempt meets_fetchResults) ?_
      rintro (e | results) es hfetched
      · obtain ⟨hnone, hmissing⟩ := hfetched
        exact hnone.trans (if_neg hmissing).symm
      · obtain ⟨hnone, hall, rfl⟩ := hfetched
        have hsome : ∀ v ∈ (worker.answeredApps chunkSize (batch.map Prod.snd)).map worker.answer,
            v.isNullish = false := by
          intro v hv
          obtain ⟨combo, -, rfl⟩ := mem_map.mp hv
          exact worker.answer_some combo
        refine Meets.bind (R := fun _ fs => written fs =
            if answeredChunks fs = chunksOf chunkSize (batch.map Prod.snd) then
              (batch.map Prod.fst).zip
                ((worker.answeredApps chunkSize (batch.map Prod.snd)).map worker.answer) else [])
          ((meets_storeResults hsome rfl rfl).mono fun stored fs hfs => ?_) ?_
        · have hwritten := hfs.2
          rw [hnone, nil_append, drop_zero] at hwritten
          have hall' := hfs.1.trans hall
          cases stored <;> exact hwritten.trans (if_pos hall').symm
        · rintro ⟨tally, stored⟩ fs hfs
          cases stored <;> exact hfs
  have hpost := hmeets.post_of_steps hsteps haccepts
  rwa [Worker.world, World.answering_after, nil_append] at hpost

end Query

/-! ## Attribution -/

/-- Every row that was stored for a combo holds the Worker's answer for it, and the
Worker has given one. -/
structure Attributed {r : Runtime} (worker : Worker) (chunkSize : ℕ) (combos : AppCombos r)
    (es : List VulnMove) : Prop where
  answer : ∀ e ∈ combos.entries, ∀ result, (e.1, result) ∈ written es → result = worker.answer e.2
  answered : ∀ e ∈ combos.entries, ∀ result, (e.1, result) ∈ written es →
    e.2 ∈ worker.answeredApps chunkSize combos.apps

section Attribution

variable {r : Runtime} {worker : Worker} {chunkSize : ℕ} {combos : AppCombos r}

theorem nodup_apps : combos.apps.Nodup := by
  refine Nodup.of_map (f := appKey r) ?_
  have hkeys : combos.apps.map (appKey r) = combos.keys := by
    unfold AppCombos.apps OrderedMap.keys
    rw [map_map]
    exact map_congr_left fun e he => (combos.keyed e he).symm
  rw [hkeys]
  exact combos.nodup

theorem answeredApps_sublist (hsize : 0 < chunkSize) (apps : List AppCombo) :
    (worker.answeredApps chunkSize apps).Sublist apps := by
  have hall : ∀ chunks : List (List AppCombo),
      (chunks.flatMap worker.gives).Sublist chunks.flatten := by
    intro chunks
    induction chunks with
    | nil => exact Sublist.refl _
    | cons chunk chunks ih => exact (worker.gives_sublist chunk).append ih
  have hsub := hall (chunksOf chunkSize apps)
  rwa [flatten_chunksOf hsize] at hsub

/-- A row under an entry's key is the value at the entry's place. -/
theorem mem_zip_keys {values : List Value} {e : String × AppCombo} (he : e ∈ combos.entries)
    {result : Value} : (e.1, result) ∈ combos.keys.zip values ↔
      ∃ i : ℕ, combos.entries[i]? = some e ∧ values[i]? = some result := by
  unfold OrderedMap.keys
  rw [mem_iff_getElem?]
  refine exists_congr fun i => ?_
  rw [getElem?_zip_eq_some, getElem?_map, Option.map_eq_some_iff]
  refine and_congr_left fun _ => ⟨?_, fun hi => ⟨e, hi, rfl⟩⟩
  rintro ⟨e', hi, hkey⟩
  rw [hi, inj_on_of_nodup_map combos.nodup (mem_of_getElem? hi) he hkey]

/-- What a query stores is what the Worker answered for just these apps exactly if no
app without an answer stands before one that has an answer. -/
theorem attributed_iff_prefix {workspaceSlug url token : String} {es : List VulnMove}
    {result : Except ServiceError AppsTally} (hsize : 0 < chunkSize)
    (hsteps : Prog.Steps (queryApps chunkSize workspaceSlug url token combos.entries) es
      (.ret result))
    (haccepts : worker.world.Accepts [] es) :
    Attributed worker chunkSize combos es ↔
      (answeredChunks es = chunksOf chunkSize combos.apps →
        worker.answeredApps chunkSize combos.apps <+: combos.apps) := by
  have hwritten := written_queryApps hsteps haccepts
  have happ : ∀ {i : ℕ} {e : String × AppCombo}, combos.entries[i]? = some e →
      combos.apps[i]? = some e.2 := fun hi => by
    rw [AppCombos.apps, List.getElem?_map, hi]
    rfl
  by_cases hall : answeredChunks es = chunksOf chunkSize combos.apps
  · have hrows : written es = combos.keys.zip
        ((worker.answeredApps chunkSize combos.apps).map worker.answer) :=
      hwritten.trans (if_pos hall)
    rw [imp_iff_right hall]
    constructor
    · intro hattr
      refine prefix_of_take_subset (answeredApps_sublist hsize _) nodup_apps fun combo hmem => ?_
      -- the app at a place where an answer was stored has been answered
      obtain ⟨i, hi⟩ := List.mem_iff_getElem?.mp hmem
      rw [List.getElem?_take] at hi
      split_ifs at hi with hlt
      obtain ⟨e, he, rfl⟩ := Option.map_eq_some_iff.mp ((List.getElem?_map ..).symm.trans hi)
      refine hattr.answered e (List.mem_of_getElem? he)
        (worker.answer (worker.answeredApps chunkSize combos.apps)[i]) ?_
      rw [hrows]
      refine (mem_zip_keys (List.mem_of_getElem? he)).mpr ⟨i, he, ?_⟩
      rw [List.getElem?_map, List.getElem?_eq_getElem hlt]
      rfl
    · intro hprefix
      have hplace : ∀ e ∈ combos.entries, ∀ result, (e.1, result) ∈ written es →
          result = worker.answer e.2 ∧ e.2 ∈ worker.answeredApps chunkSize combos.apps := by
        intro e he result hmem
        rw [hrows] at hmem
        obtain ⟨i, hi, hvalue⟩ := (mem_zip_keys he).mp hmem
        obtain ⟨combo, hcombo, rfl⟩ := Option.map_eq_some_iff.mp
          ((List.getElem?_map ..).symm.trans hvalue)
        have hsame : combos.apps[i]? = some combo := by
          obtain ⟨rest, hrest⟩ := hprefix
          rw [← hrest, List.getElem?_append_left (List.getElem?_eq_some_iff.mp hcombo).1, hcombo]
        rw [happ hi, Option.some.injEq] at hsame
        exact ⟨by rw [hsame], hsame ▸ List.mem_of_getElem? hcombo⟩
      exact ⟨fun e he result hmem => (hplace e he result hmem).1,
        fun e he result hmem => (hplace e he result hmem).2⟩
  · have hnone : written es = [] := hwritten.trans (if_neg hall)
    refine iff_of_true ⟨fun e _ result hmem => ?_, fun e _ result hmem => ?_⟩
      fun h => absurd h hall <;>
    · rw [hnone] at hmem
      cases hmem

end Attribution

/-! ## Apps that are left out -/

/-- A Worker that leaves one app out of every chunk. -/
def workerWithout (identifier : String) : Worker where
  answer combo := .obj [("mapped", .bool true), ("identifier", .str combo.identifier)]
  gives chunk := chunk.filter fun combo => combo.identifier ≠ identifier
  gives_sublist _ := List.filter_sublist
  answer_some _ := rfl

/-- The replies of a Worker that is always reached. -/
def Worker.reply (worker : Worker) (_ : List VulnMove) :
    (c : VulnCall) → Except ServiceError (VulnCall.Answer c)
  | .now => .ok 0
  | .sleep _ => .ok ()
  | .post _ _ (.apps chunk) =>
    .ok ⟨200, .obj [("results", .arr ((worker.gives chunk).map worker.answer))]⟩
  | .upsertCacheRow _ _ result _ =>
    if result.isNullish then .error (.other "Argument result is missing.") else .ok ()
  | _ => .error (.other "")

theorem Worker.may_reply (worker : Worker) (es : List VulnMove) (c : VulnCall) :
    worker.may c (worker.reply es c) := by
  cases c with
  | post url token body =>
    cases body with
    | os => trivial
    | apps chunk => exact fun _ => rfl
  | upsertCacheRow slug key result cachedAt =>
    show worker.may (.upsertCacheRow slug key result cachedAt) (if _ then _ else _)
    split_ifs with h
    · exact h
    · exact Bool.eq_false_iff.mpr h
  | _ => trivial

/-- A runtime that changes no text. -/
def plainRuntime : Runtime where
  now := 0
  parseDate _ := none
  parseNumber _ := none
  printNumber _ := ""
  toLowerCase s := s
  inherited _ := .undefined
  setMember _ _ := .undefined

/-- Two apps of a Mac. -/
def twoApps : AppCombos plainRuntime :=
  (AppCombos.none.add ⟨"editor", "1.0", "macos"⟩).add ⟨"player", "2.0", "macos"⟩

/-- The query for the two apps. -/
def twoAppsRun (worker : Worker) : List VulnMove × Except ServiceError AppsTally :=
  (queryApps appsChunkSize "acme" "https://worker" "token" twoApps.entries).execute worker.world
    worker.reply []

theorem twoAppsRun_legal (worker : Worker) :
    Prog.Steps (queryApps appsChunkSize "acme" "https://worker" "token" twoApps.entries)
      (twoAppsRun worker).1 (.ret (twoAppsRun worker).2) ∧
      worker.world.Accepts [] (twoAppsRun worker).1 :=
  ⟨steps_execute _ _, accepts_execute worker.may_reply _ _⟩

/-- With the last app left out, the other one gets its own answer. -/
theorem attributed_iff_prefix_last : Attributed (workerWithout "player") appsChunkSize twoApps
    (twoAppsRun (workerWithout "player")).1 := by
  have hiff := attributed_iff_prefix (by decide) (twoAppsRun_legal (workerWithout "player")).1
    (twoAppsRun_legal (workerWithout "player")).2
  exact hiff.mpr fun _ => by decide +kernel

/-- With the first app left out, it gets the answer of the other one. -/
theorem answer_under_other_key :
    ¬∀ (r : Runtime) (worker : Worker) (chunkSize : ℕ) (combos : AppCombos r)
      (workspaceSlug url token : String) (es : List VulnMove)
      (result : Except ServiceError AppsTally), 0 < chunkSize →
      Prog.Steps (queryApps chunkSize workspaceSlug url token combos.entries) es (.ret result) →
      worker.world.Accepts [] es → Attributed worker chunkSize combos es := by
  intro hall
  obtain ⟨hsteps, haccepts⟩ := twoAppsRun_legal (workerWithout "editor")
  have hattr := hall _ _ _ _ _ _ _ _ _ (by decide) hsteps haccepts
  have hchunks : answeredChunks (twoAppsRun (workerWithout "editor")).1 =
      chunksOf appsChunkSize twoApps.apps := by
    decide +kernel
  have hwritten := (written_queryApps hsteps haccepts).trans (if_pos hchunks)
  have heditor : ("editor|1.0|macos", (⟨"editor", "1.0", "macos"⟩ : AppCombo)) ∈
      twoApps.entries := by
    decide +kernel
  have hanswered := hattr.answered _ heditor
    ((workerWithout "editor").answer ⟨"player", "2.0", "macos"⟩) (by
      rw [hwritten]
      exact mem_cons_self)
  exact absurd hanswered (by decide +kernel)

end AppliverySoar.Catalogs
