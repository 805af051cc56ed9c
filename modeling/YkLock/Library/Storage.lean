import YkLock.Library.StatePrograms

/-! Storage devices that transfer whole records, and what may be assumed of their transfers. -/

namespace YkLock.Library.Storage

structure Device (D R : Type) where
  read : D → Option R × D
  write : D → R → Bool × D

variable {D R S : Type}

def Device.decoded (dev : Device D S) (e : R ≃ S) : Device D R where
  read d := ((dev.read d).1.map e.symm, (dev.read d).2)
  write d r := dev.write d (e r)

def Device.Readable (dev : Device D R) (content : D → R) : Prop :=
  ∀ d, dev.read d = (some (content d), d)

structure Device.Reliable (dev : Device D R) (content : D → R) : Prop where
  read : ∀ d, dev.read d = (some (content d), d)
  write_ok : ∀ d r, (dev.write d r).1 = true
  content_write : ∀ d r, content (dev.write d r).2 = r

/-- Transfers may fail at any time: a failing write leaves the content, a successful read returns it. -/
structure Device.Faulty (dev : Device D R) (content : D → R) : Prop where
  content_read : ∀ d, content (dev.read d).2 = content d
  read_some : ∀ d r, (dev.read d).1 = some r → r = content d
  content_write : ∀ d r, (dev.write d r).1 = true → content (dev.write d r).2 = r
  content_fail : ∀ d r, (dev.write d r).1 = false → content (dev.write d r).2 = content d

/-- Transfers succeed, but until a written record becomes visible a read may still return the one
that was visible before; a later write supersedes an earlier one. -/
structure Device.Latent (dev : Device D R) (settled visible : D → R) : Prop where
  settled_read : ∀ d, settled (dev.read d).2 = settled d
  read : ∀ d, ((dev.read d).1 = some (visible d) ∧ visible (dev.read d).2 = visible d) ∨
    ((dev.read d).1 = some (settled d) ∧ visible (dev.read d).2 = settled d)
  write_ok : ∀ d r, (dev.write d r).1 = true
  settled_write : ∀ d r, settled (dev.write d r).2 = r
  visible_write : ∀ d r, visible (dev.write d r).2 = visible d

/-- Reads succeed; the pattern says which writes do, and a failing one leaves the content. -/
structure Device.Failing (dev : Device D R) (content : D → R) (pattern : D → ℕ → Bool) : Prop where
  read : dev.Readable content
  write : ∀ d r, (dev.write d r).1 = pattern d 0
  content_write : ∀ d r, content (dev.write d r).2 = if pattern d 0 = true then r else content d
  pattern_write : ∀ d r n, pattern (dev.write d r).2 n = pattern d (n + 1)

lemma Device.Faulty.decoded {dev : Device D S} {content : D → S} (h : dev.Faulty content)
    (e : R ≃ S) : (dev.decoded e).Faulty (fun d => e.symm (content d)) where
  content_read d := by simp [Device.decoded, h.content_read]
  read_some d r hr := by
    obtain ⟨s, hs, rfl⟩ := Option.map_eq_some_iff.mp hr
    rw [h.read_some d s hs]
  content_write d r hw := by simp [Device.decoded, h.content_write d (e r) hw]
  content_fail d r hw := by simp [Device.decoded, h.content_fail d (e r) hw]

lemma Device.Latent.decoded {dev : Device D S} {settled visible : D → S}
    (h : dev.Latent settled visible) (e : R ≃ S) :
    (dev.decoded e).Latent (fun d => e.symm (settled d)) (fun d => e.symm (visible d)) where
  settled_read d := by simp [Device.decoded, h.settled_read]
  read d := by
    rcases h.read d with ⟨hr, hv⟩ | ⟨hr, hv⟩
    · exact Or.inl ⟨by simp [Device.decoded, hr], by simp [Device.decoded, hv]⟩
    · exact Or.inr ⟨by simp [Device.decoded, hr], by simp [Device.decoded, hv]⟩
  write_ok d r := h.write_ok d _
  settled_write d r := by simp [Device.decoded, h.settled_write]
  visible_write d r := by simp [Device.decoded, h.visible_write]

def Device.recording (dev : Device D R) : Device (D × List R) R where
  read d := ((dev.read d.1).1, ((dev.read d.1).2, d.2))
  write d r := ((dev.write d.1 r).1, ((dev.write d.1 r).2, r :: d.2))

lemma Device.Reliable.recording {dev : Device D R} {content : D → R} (h : dev.Reliable content) :
    dev.recording.Reliable fun d => content d.1 where
  read d := by simp [Device.recording, h.read]
  write_ok d r := h.write_ok d.1 r
  content_write d r := h.content_write d.1 r

def Device.ideal (R : Type) : Device R R where
  read r := (some r, r)
  write _ r := (true, r)

lemma Device.ideal_reliable : (Device.ideal R).Reliable id :=
  ⟨fun _ => rfl, fun _ _ => rfl, fun _ _ => rfl⟩

def Device.flaky (R : Type) : Device (R × List Bool) R where
  read d := match d.2 with
    | false :: rest => (none, (d.1, rest))
    | _ => (some d.1, (d.1, d.2.tail))
  write d r := match d.2 with
    | false :: rest => (false, (d.1, rest))
    | _ => (true, (r, d.2.tail))

lemma Device.flaky_faulty : (Device.flaky R).Faulty Prod.fst where
  content_read := by rintro ⟨r, _ | ⟨_ | _, rest⟩⟩ <;> rfl
  read_some := by rintro ⟨r, _ | ⟨_ | _, rest⟩⟩ s hs <;> simp_all [Device.flaky]
  content_write := by rintro ⟨r, _ | ⟨_ | _, rest⟩⟩ s hs <;> simp_all [Device.flaky]
  content_fail := by rintro ⟨r, _ | ⟨_ | _, rest⟩⟩ s hs <;> simp_all [Device.flaky]

def Device.scripted (R : Type) : Device (R × (ℕ → Bool)) R where
  read d := (some d.1, d)
  write d r := (d.2 0, (if d.2 0 = true then r else d.1, fun n => d.2 (n + 1)))

lemma Device.scripted_failing : (Device.scripted R).Failing Prod.fst Prod.snd :=
  ⟨fun _ => rfl, fun _ _ => rfl, fun _ _ => rfl, fun _ _ _ => rfl⟩

def Device.lagging (R : Type) : Device (R × R × List Bool) R where
  read d := match d.2.2 with
    | true :: rest => (some d.2.1, (d.1, d.2.1, rest))
    | _ => (some d.1, (d.1, d.1, d.2.2.tail))
  write d r := (true, (r, d.2))

lemma Device.lagging_latent : (Device.lagging R).Latent (fun d => d.1) (fun d => d.2.1) where
  settled_read := by rintro ⟨r, v, _ | ⟨_ | _, rest⟩⟩ <;> rfl
  read := by
    rintro ⟨r, v, _ | ⟨_ | _, rest⟩⟩
    · exact Or.inr ⟨rfl, rfl⟩
    · exact Or.inr ⟨rfl, rfl⟩
    · exact Or.inl ⟨rfl, rfl⟩
  write_ok _ _ := rfl
  settled_write _ _ := rfl
  visible_write _ _ := rfl

end YkLock.Library.Storage
