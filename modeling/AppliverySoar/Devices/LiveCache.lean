import Mathlib.Data.List.Basic

/-!
# The cache for live pulls

liveCache.ts: a map from "workspace:source" to a value and the time at which it
expires.
-/

namespace AppliverySoar.Devices

open Function

structure CacheEntry (α : Type) where
  data : α
  expiresAtMs : ℕ

/-- The module's `cache`. -/
abbrev LiveCache (α : Type) := String → Option (CacheEntry α)

variable {α : Type}

def cacheKey (workspaceSlug source : String) : String :=
  workspaceSlug ++ ":" ++ source

def liveCacheGet (cache : LiveCache α) (nowMs : ℕ) (workspaceSlug source : String) : Option α :=
  match cache (cacheKey workspaceSlug source) with
  | some entry => if entry.expiresAtMs > nowMs then some entry.data else none
  | none => none

def liveCacheSet (cache : LiveCache α) (nowMs : ℕ) (workspaceSlug source : String) (data : α)
    (ttlSeconds : ℕ) : LiveCache α :=
  Function.update cache (cacheKey workspaceSlug source) (some ⟨data, nowMs + ttlSeconds * 1000⟩)

def liveCacheInvalidateSource (cache : LiveCache α) (workspaceSlug source : String) :
    LiveCache α :=
  Function.update cache (cacheKey workspaceSlug source) none

/-- Every key that starts with the workspace and a colon is deleted. -/
def liveCacheInvalidateWorkspace (cache : LiveCache α) (workspaceSlug : String) : LiveCache α :=
  fun key => if (workspaceSlug ++ ":").toList <+: key.toList then none else cache key

/-! ## Keys -/

variable {slug slug' source : String}

theorem cacheKey_inj (h : cacheKey slug source = cacheKey slug' source) : slug = slug' := by
  have hlist := congrArg String.toList h
  simp only [cacheKey, String.toList_append, List.append_assoc] at hlist
  exact String.toList_inj.mp (List.append_cancel_right hlist)

/-! ## What is found afterwards -/

variable {cache : LiveCache α}

theorem exists_entry_of_get {nowMs : ℕ} {slug source : String} {data : α}
    (h : liveCacheGet cache nowMs slug source = some data) :
    ∃ entry, cache (cacheKey slug source) = some entry ∧ entry.data = data := by
  unfold liveCacheGet at h
  split at h
  next entry hentry =>
    split_ifs at h
    exact ⟨entry, hentry, Option.some.inj h⟩
  next => cases h

variable {entry : CacheEntry α}

theorem entry_of_set {nowMs ttlSeconds : ℕ} {data : α}
    (h : liveCacheSet cache nowMs slug source data ttlSeconds (cacheKey slug' source) =
      some entry) :
    (slug' = slug ∧ entry.data = data) ∨ cache (cacheKey slug' source) = some entry := by
  unfold liveCacheSet at h
  by_cases hkey : cacheKey slug' source = cacheKey slug source
  · rw [hkey, update_self] at h
    obtain rfl := Option.some.inj h
    exact .inl ⟨cacheKey_inj hkey, rfl⟩
  · rw [update_of_ne hkey] at h
    exact .inr h

theorem entry_of_invalidateSource
    (h : liveCacheInvalidateSource cache slug source (cacheKey slug' source) = some entry) :
    slug' ≠ slug ∧ cache (cacheKey slug' source) = some entry := by
  unfold liveCacheInvalidateSource at h
  by_cases hkey : cacheKey slug' source = cacheKey slug source
  · rw [hkey, update_self] at h
    cases h
  · rw [update_of_ne hkey] at h
    exact ⟨fun hslug => hkey (hslug ▸ rfl), h⟩

theorem entry_of_invalidateWorkspace {slug key : String}
    (h : liveCacheInvalidateWorkspace cache slug key = some entry) : cache key = some entry := by
  unfold liveCacheInvalidateWorkspace at h
  split_ifs at h
  exact h

end AppliverySoar.Devices
