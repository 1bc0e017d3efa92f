import AppliverySoar.Compliance.PassTrace
import Mathlib.Data.List.Nodup

/-!
# What a scan leaves

Facts about the abstract pass `Scan`: what it does to the entry of each key,
which rows and launches go with that, and what a visit's verdict says of the
blob that the scan ends with.

Results:
* `Scan.changed`: an entry changes under a visited key only; one that goes was
  found recovered, one that comes is about an id that the scan has drawn.
* `Scan.get_of_visited`: the last visit of a key decides whether it has an entry.
-/

namespace AppliverySoar.Compliance

open Async List

variable {E : Evaluator}

/-- The id that a mark gives. -/
def Mark.issuedId : Mark E → Option String
  | .issued id => some id
  | _ => none

theorem mem_visitsOf {policies : List (CompliancePolicy E)} {devices : List (Device E)}
    {v : Visit E} : v ∈ visitsOf policies devices ↔
      v.policy ∈ policies ∧ v.device ∈ v.policy.scopedDevices devices := by
  rcases v with ⟨p, d⟩
  simp [visitsOf]

section Scans

variable {ctx : EvalContext E} {b₀ : SuppressionState} {visits : List (Visit E)}
  {st : ScanState E} {ms : List (Mark E)}

section

variable (h : Scan ctx b₀ visits st ms)
include h

theorem Scan.changed (key : String) :
    SuppressionState.get st.blob key = SuppressionState.get b₀ key ∨
      key ∈ visits.map Visit.key ∧
      (∀ e, SuppressionState.get b₀ key = some e → .recovered e.violationId ∈ ms) ∧
      ∀ e, SuppressionState.get st.blob key = some e → .issued e.violationId ∈ ms := by
  induction h with
  | start => exact .inl rfl
  | kept v _ _ ih => exact ih.imp_right fun h => ⟨by simp [h.1], h.2⟩
  | @recovered visits st ms v e hscan hmatched hget ih =>
    rw [SuppressionState.get_delete]
    by_cases hk : key = v.key
    · subst hk
      refine .inr ⟨by simp, fun e₀ he₀ => ?_, by simp⟩
      rcases ih with hsame | hrec
      · rw [hget, he₀] at hsame
        obtain rfl := Option.some.inj hsame
        simp
      · exact mem_append_left _ (hrec.2.1 e₀ he₀)
    · rw [if_neg hk]
      refine ih.imp_right fun h => ⟨by simp [h.1], fun e₀ he₀ => ?_, fun e' he' => ?_⟩
      · exact mem_append_left _ (h.2.1 e₀ he₀)
      · exact mem_append_left _ (h.2.2 e' he')
  | @opened visits st ms tail v row entry hscan hmatched hnone _ _ _ _ hid htail ih =>
    rw [SuppressionState.get_set]
    by_cases hk : key = v.key
    · rw [if_pos hk]
      subst hk
      refine .inr ⟨by simp, fun e₀ he₀ => ?_, fun e' he' => ?_⟩
      · rcases ih with hsame | hrec
        · rw [hnone, he₀] at hsame
          cases hsame
        · exact mem_append_left _ (hrec.2.1 e₀ he₀)
      · obtain rfl := Option.some.inj he'
        rw [hid]
        simp
    · rw [if_neg hk]
      refine ih.imp_right fun h => ⟨by simp [h.1], fun e₀ he₀ => ?_, fun e' he' => ?_⟩
      · exact mem_append_left _ (h.2.1 e₀ he₀)
      · exact mem_append_left _ (h.2.2 e' he')

theorem Scan.get_of_unvisited {key : String}
    (hkey : key ∉ visits.map Visit.key) :
    SuppressionState.get st.blob key = SuppressionState.get b₀ key :=
  (h.changed key).resolve_right fun hc => hkey hc.1

/-- After a visit its key has an entry exactly when the device violates. -/
theorem Scan.get_of_visited {key : String}
    (hkey : key ∈ visits.map Visit.key) :
    ∃ v ∈ visits, v.key = key ∧
      ((SuppressionState.get st.blob key).isSome = true ↔ v.matched ctx ≠ []) := by
  have hstep : ∀ {visits : List (Visit E)} {v : Visit E} {b b' : SuppressionState},
      (∀ k, k ≠ v.key → SuppressionState.get b' k = SuppressionState.get b k) →
      ((SuppressionState.get b' v.key).isSome = true ↔ v.matched ctx ≠ []) →
      (key ∈ visits.map Visit.key → ∃ w ∈ visits, w.key = key ∧
        ((SuppressionState.get b key).isSome = true ↔ w.matched ctx ≠ [])) →
      key ∈ (visits ++ [v]).map Visit.key → ∃ w ∈ visits ++ [v], w.key = key ∧
        ((SuppressionState.get b' key).isSome = true ↔ w.matched ctx ≠ []) := by
    intro visits v b b' hother hv ih hmem
    by_cases hk : key = v.key
    · exact ⟨v, by simp, hk.symm, hk ▸ hv⟩
    · rw [map_append, mem_append] at hmem
      rcases hmem with hmem | hmem
      · obtain ⟨w, hw, hwkey, hiff⟩ := ih hmem
        exact ⟨w, mem_append_left _ hw, hwkey, by rw [hother key hk]; exact hiff⟩
      · exact absurd (mem_singleton.mp hmem) hk
  induction h with
  | start => cases hkey
  | kept v _ hiff ih => exact hstep (fun _ _ => rfl) hiff.symm ih hkey
  | recovered v _ hmatched _ ih =>
    refine hstep (fun k hk => ?_) ?_ ih hkey
    · rw [SuppressionState.get_delete, if_neg hk]
    · rw [SuppressionState.get_delete, if_pos rfl]
      simp [hmatched]
  | opened v _ hmatched _ _ _ _ _ _ _ ih =>
    refine hstep (fun k hk => ?_) ?_ ih hkey
    · rw [SuppressionState.get_set, if_neg hk]
    · rw [SuppressionState.get_set, if_pos rfl]
      simp [hmatched]

/-- An entry that the scan ends with was there before, or is about a new row. -/
theorem Scan.entry_cases {key : String} {e : SuppressionEntry}
    (he : SuppressionState.get st.blob key = some e) :
    SuppressionState.get b₀ key = some e ∨ ∃ row ∈ st.rows, row.id = e.violationId := by
  induction h with
  | start => exact .inl he
  | kept _ _ _ ih => exact ih he
  | recovered v _ _ _ ih =>
    rw [SuppressionState.get_delete] at he
    split_ifs at he
    exact ih he
  | @opened visits st ms tail v row entry _ _ _ _ _ _ _ hid _ ih =>
    rw [SuppressionState.get_set] at he
    split_ifs at he
    · obtain rfl := Option.some.inj he
      exact .inr ⟨row, by simp, hid.symm⟩
    · exact (ih he).imp_right fun ⟨r, hr, hrid⟩ => ⟨r, mem_append_left _ hr, hrid⟩

end

/-- The key of a row. -/
def ComplianceViolation.key (r : ComplianceViolation E) : String :=
  suppressionKey r.policyId r.deviceId

/-- Where no key is visited twice, a new row has its entry in the end. -/
theorem Scan.row_entry (h : Scan ctx b₀ visits st ms) (hkeys : (visits.map Visit.key).Nodup) :
    ∀ row ∈ st.rows, row.key ∈ visits.map Visit.key ∧
      ∃ e, SuppressionState.get st.blob row.key = some e ∧ e.violationId = row.id := by
  induction h with
  | start => simp
  | kept v _ _ ih =>
    rw [map_append, nodup_append] at hkeys
    exact fun row hrow => (ih hkeys.1 row hrow).imp_left fun h => by simp [h]
  | @recovered visits st ms v e _ _ _ ih =>
    rw [map_append, nodup_append] at hkeys
    intro row hrow
    obtain ⟨hmem, hentry⟩ := ih hkeys.1 row hrow
    rw [SuppressionState.get_delete, if_neg (hkeys.2.2 _ hmem _ (by simp))]
    exact ⟨by simp [hmem], hentry⟩
  | @opened visits st ms tail v row entry _ _ _ hpolicy hdevice _ _ hid _ ih =>
    rw [map_append, nodup_append] at hkeys
    intro r hr
    rcases mem_append.mp hr with hr | hr
    · obtain ⟨hmem, hentry⟩ := ih hkeys.1 r hr
      rw [SuppressionState.get_set, if_neg (hkeys.2.2 _ hmem _ (by simp))]
      exact ⟨by simp [hmem], hentry⟩
    · obtain rfl := mem_singleton.mp hr
      have hkey : r.key = v.key := by
        rw [ComplianceViolation.key, hpolicy, hdevice]
        rfl
      rw [hkey, SuppressionState.get_set, if_pos rfl]
      exact ⟨by simp, entry, rfl, hid⟩

/-- Where no key is visited twice, a launch is for a key that had no entry and
has one in the end. -/
theorem Scan.launched_entry (h : Scan ctx b₀ visits st ms)
    (hkeys : (visits.map Visit.key).Nodup) {p d : String} (hlaunch : .launched p d ∈ ms) :
    suppressionKey p d ∈ visits.map Visit.key ∧
      SuppressionState.get b₀ (suppressionKey p d) = none ∧
      (SuppressionState.get st.blob (suppressionKey p d)).isSome = true := by
  induction h with
  | start => cases hlaunch
  | kept v _ _ ih =>
    rw [map_append, nodup_append] at hkeys
    exact (ih hkeys.1 hlaunch).imp_left fun h => by simp [h]
  | @recovered visits st ms v e _ _ _ ih =>
    rw [map_append, nodup_append] at hkeys
    obtain ⟨hmem, hentry⟩ := ih hkeys.1 (by simpa using hlaunch)
    rw [SuppressionState.get_delete, if_neg (hkeys.2.2 _ hmem _ (by simp))]
    exact ⟨by simp [hmem], hentry⟩
  | @opened visits st ms tail v row entry hscan _ hnone _ _ _ _ _ htail ih =>
    rw [map_append, nodup_append] at hkeys
    rcases mem_append.mp hlaunch with hlaunch | hlaunch
    · obtain ⟨hmem, hentry⟩ := ih hkeys.1 hlaunch
      rw [SuppressionState.get_set, if_neg (hkeys.2.2 _ hmem _ (by simp))]
      exact ⟨by simp [hmem], hentry⟩
    · have hkey : suppressionKey p d = v.key := by
        cases htail with
        | none => simp at hlaunch
        | launched runId =>
          simp only [mem_cons, reduceCtorEq, Mark.launched.injEq, not_mem_nil, or_false,
            false_or] at hlaunch
          rw [hlaunch.1, hlaunch.2]
          rfl
      have hunvisited : v.key ∉ visits.map Visit.key :=
        fun hmem => hkeys.2.2 _ hmem _ (by simp) rfl
      rw [hkey, SuppressionState.get_set, if_pos rfl]
      exact ⟨by simp, (hscan.get_of_unvisited hunvisited).symm.trans hnone, rfl⟩

theorem Scan.rows_issued (h : Scan ctx b₀ visits st ms) :
    (st.rows.map fun r => r.id).Sublist (ms.filterMap Mark.issuedId) := by
  induction h with
  | start => exact .slnil
  | kept _ _ _ ih => exact ih
  | recovered _ _ _ _ ih =>
    rw [filterMap_append]
    exact ih.trans (sublist_append_left _ _)
  | @opened visits st ms tail v row entry _ _ _ _ _ _ _ _ _ ih =>
    rw [map_append, filterMap_append]
    refine ih.append ?_
    show [row.id].Sublist (row.id :: tail.filterMap Mark.issuedId)
    exact singleton_sublist.mpr mem_cons_self

end Scans

section Passes

variable {req : EvaluationRequest} {fleet : Fleet E} {b₀ : SuppressionState}
  {visits todo : List (Visit E)} {st : ScanState E} {ms : List (Mark E)}

theorem Scanned.changed (h : Scanned req fleet b₀ visits todo st ms) :
    .loaded b₀ ∈ ms ∧ ∀ key,
      SuppressionState.get st.blob key = SuppressionState.get b₀ key ∨
      (∃ all items, .policies all ∈ ms ∧ .devices items ∈ ms ∧ key ∈ req.keys all items) ∧
      (∀ e, SuppressionState.get b₀ key = some e → .recovered e.violationId ∈ ms) ∧
      ∀ e, SuppressionState.get st.blob key = some e → .issued e.violationId ∈ ms := by
  obtain ⟨all, items, ms', rfl, hkeys, hscan⟩ := h.keys_eq
  refine ⟨by simp, fun key => (hscan.changed key).imp_right fun h => ⟨?_, ?_, ?_⟩⟩
  · exact ⟨all, items, by simp, by simp, hkeys ▸ mem_append_left _ h.1⟩
  · exact fun e he => by simp [h.2.1 e he]
  · exact fun e he => by simp [h.2.2 e he]

theorem Scanned.rows_issued (h : Scanned req fleet b₀ visits todo st ms) :
    (st.rows.map fun r => r.id).Sublist (ms.filterMap Mark.issuedId) := by
  obtain ⟨all, items, ms', rfl, -, -, hscan⟩ := h
  exact hscan.rows_issued

/-- Policies and devices with ids of their own give every visit its own key. -/
theorem visitsOf_keys_nodup {policies : List (CompliancePolicy E)} {devices : List (Device E)}
    (hids : (policies.map CompliancePolicy.id).Nodup) (hcolon : ∀ p ∈ policies, NoColon p.id)
    (hdevices : (devices.map fun d => d.id).Nodup) :
    ((visitsOf policies devices).map Visit.key).Nodup := by
  have hvisits : (visitsOf policies devices).Nodup := by
    refine nodup_flatMap.mpr ⟨fun p _ => ?_, ?_⟩
    · exact (hdevices.of_map.filter _).map fun d d' h => (Visit.mk.inj h).2
    · refine hids.of_map.imp fun hne v hv hv' => ?_
      obtain ⟨d, -, rfl⟩ := mem_map.mp hv
      obtain ⟨d', -, heq⟩ := mem_map.mp hv'
      exact hne (Visit.mk.inj heq).1.symm
  refine hvisits.map_on fun v hv w hw hkey => ?_
  obtain ⟨hv, hvd⟩ := mem_visitsOf.mp hv
  obtain ⟨hw, hwd⟩ := mem_visitsOf.mp hw
  obtain ⟨hpolicy, hdevice⟩ := suppressionKey_inj (hcolon _ hv) (hcolon _ hw) hkey
  have hsame := inj_on_of_nodup_map hids hv hw hpolicy
  have hsame' := inj_on_of_nodup_map hdevices (mem_filter.mp hvd).1
    (mem_filter.mp hwd).1 hdevice
  rcases v with ⟨p, d⟩
  rcases w with ⟨q, e⟩
  cases hsame
  cases hsame'
  rfl

theorem PassSaved.scanned {acts : List MarkerAction} (h : PassSaved req fleet acts ms) :
    ∃ b₀ visits st ms' tail, Scanned req fleet b₀ visits [] st ms' ∧ st.acts = acts ∧
      ms = ms' ++ .saved st.blob :: tail ∧
      ((tail = [] ∧ st.rows = []) ∨ (tail = [.created st.rows] ∧ st.rows ≠ [])) := by
  cases h with
  | nothingNew hscan hacts hrows => exact ⟨_, _, _, _, [], hscan, hacts, rfl, .inl ⟨rfl, hrows⟩⟩
  | created hscan hacts hrows => exact ⟨_, _, _, _, _, hscan, hacts, rfl, .inr ⟨rfl, hrows⟩⟩

end Passes

end AppliverySoar.Compliance
