import YkLock.Library.Storage

/-! A record held in a device and in a cache that every read refreshes and every write writes through. -/

namespace YkLock.Library.Storage

variable {D R : Type}

structure Cached (D R : Type) where
  dev : D
  cache : R

namespace Cached

variable (dev : Device D R)

def load (s : Cached D R) : Cached D R :=
  ⟨(dev.read s.dev).2, (dev.read s.dev).1.getD s.cache⟩

def save (n : ℕ) (r : R) (s : Cached D R) : Bool × Cached D R :=
  if (dev.write s.dev r).1 then (true, (load dev)^[n] ⟨(dev.write s.dev r).2, r⟩)
  else (false, ⟨(dev.write s.dev r).2, s.cache⟩)

def reread (n : ℕ) (d : D) : Option R :=
  (dev.read ((fun d => (dev.read d).2)^[n] d)).1

variable {dev}

lemma dev_iterate_load (n : ℕ) (s : Cached D R) :
    ((load dev)^[n] s).dev = (fun d => (dev.read d).2)^[n] s.dev := by
  induction n with
  | zero => rfl
  | succ n ih => rw [Function.iterate_succ_apply', Function.iterate_succ_apply', ← ih]; rfl

lemma cache_iterate_load (n : ℕ) (s : Cached D R) :
    ((load dev)^[n + 1] s).cache =
      (reread dev n s.dev).getD ((load dev)^[n] s).cache := by
  rw [Function.iterate_succ_apply', reread, ← dev_iterate_load]
  rfl

section Faulty

variable {content : D → R} (h : dev.Faulty content)

def Synced (content : D → R) (s : Cached D R) : Prop := s.cache = content s.dev

include h

lemma content_load (s : Cached D R) : content (load dev s).dev = content s.dev :=
  h.content_read s.dev

lemma load_synced_of_some {s : Cached D R} {r : R} (hr : (dev.read s.dev).1 = some r) :
    (load dev s).Synced content := by
  simp [Synced, load, h.content_read, hr, h.read_some _ _ hr]

lemma load_synced {s : Cached D R} (hs : s.Synced content) : (load dev s).Synced content := by
  cases hr : (dev.read s.dev).1 with
  | none => simpa [Synced, load, hr, h.content_read] using hs
  | some r => exact load_synced_of_some h hr

lemma iterate_load (n : ℕ) {s : Cached D R} (hs : s.Synced content) :
    ((load dev)^[n] s).Synced content ∧ content ((load dev)^[n] s).dev = content s.dev := by
  induction n with
  | zero => exact ⟨hs, rfl⟩
  | succ n ih =>
    rw [Function.iterate_succ_apply']
    exact ⟨load_synced h ih.1, (content_load h _).trans ih.2⟩

lemma save_ok {n : ℕ} {r : R} {s : Cached D R} (hs : (save dev n r s).1 = true) :
    content (save dev n r s).2.dev = r ∧ (save dev n r s).2.cache = r := by
  have hw : (dev.write s.dev r).1 = true := by
    by_contra hw
    simp [save, hw] at hs
  have hc : content (dev.write s.dev r).2 = r := h.content_write _ _ hw
  obtain ⟨hsync, hcont⟩ := iterate_load h n
    (show Synced content ⟨(dev.write s.dev r).2, r⟩ from hc.symm)
  have hr := hcont.trans hc
  simpa only [save, hw, if_true] using And.intro hr (hsync.trans hr)

lemma save_fail {n : ℕ} {r : R} {s : Cached D R} (hs : (save dev n r s).1 = false) :
    content (save dev n r s).2.dev = content s.dev ∧ (save dev n r s).2.cache = s.cache := by
  cases hw : (dev.write s.dev r).1 with
  | true => simp [save, hw] at hs
  | false => simp [save, hw, h.content_fail]

end Faulty

section Latent

variable {settled visible : D → R} (h : dev.Latent settled visible)
include h

lemma settled_iterate_load (n : ℕ) (s : Cached D R) :
    settled ((load dev)^[n] s).dev = settled s.dev := by
  induction n with
  | zero => rfl
  | succ n ih =>
    rw [Function.iterate_succ_apply', ← ih]
    exact h.settled_read _

lemma read_ne_none (d : D) : (dev.read d).1 ≠ none := by
  rcases h.read d with ⟨hr, -⟩ | ⟨hr, -⟩ <;> simp [hr]

lemma save_latent (n : ℕ) (r : R) (s : Cached D R) :
    (save dev (n + 1) r s).1 = true ∧ settled (save dev (n + 1) r s).2.dev = r ∧
      some (save dev (n + 1) r s).2.cache = reread dev n (dev.write s.dev r).2 := by
  simp only [save, h.write_ok, if_true]
  refine ⟨trivial, (settled_iterate_load h _ _).trans (h.settled_write _ _), ?_⟩
  rw [cache_iterate_load]
  obtain ⟨x, hx⟩ := Option.ne_none_iff_exists'.mp (read_ne_none h _)
  rw [reread, hx]
  rfl

end Latent

end Cached

end YkLock.Library.Storage
