import Mathlib

/-! Programs over a state: what a run returns, and rules for what it keeps. -/

namespace YkLock.Library.StatePrograms

variable {σ α β γ : Type}

@[simp high] lemma run_pure (a : α) (s : σ) : (pure a : StateM σ α).run s = (a, s) := rfl

@[simp high] lemma run_bind (m : StateM σ α) (f : α → StateM σ β) (s : σ) :
    (m >>= f).run s = (f (m.run s).1).run (m.run s).2 := rfl

@[simp high] lemma run_map (f : α → β) (m : StateM σ α) (s : σ) :
    (f <$> m).run s = (f (m.run s).1, (m.run s).2) := rfl

@[simp high] lemma run_get (s : σ) : (get : StateM σ σ).run s = (s, s) := rfl

@[simp high] lemma run_modify (f : σ → σ) (s : σ) :
    (modify f : StateM σ PUnit).run s = (⟨⟩, f s) := rfl

@[simp high] lemma run_ite (c : Prop) [Decidable c] (m n : StateM σ α) (s : σ) :
    (if c then m else n).run s = if c then m.run s else n.run s := by
  split <;> rfl

lemma mapM_log_run {f : α → StateM (List γ) β} {g : α → β} {h : α → γ}
    (hf : ∀ a t, (f a).run t = (g a, h a :: t)) (l : List α) (t : List γ) :
    (l.mapM f).run t = (l.map g, (l.map h).reverse ++ t) := by
  induction l generalizing t with
  | nil => rfl
  | cons a l ih => simp [List.mapM_cons, hf, ih]

def Moves (R : σ → σ → Prop) (m : StateM σ α) : Prop := ∀ s, R s (m.run s).2

def Same (f : σ → γ) (s t : σ) : Prop := f t = f s

def Preserves (P : σ → Prop) (s t : σ) : Prop := P s → P t

abbrev Keeps (f : σ → γ) (m : StateM σ α) : Prop := Moves (Same f) m

section Rules

variable {R : σ → σ → Prop}

lemma Moves.pure [Std.Refl R] (a : α) : Moves R (Pure.pure a : StateM σ α) :=
  fun s => Std.Refl.refl s

lemma Moves.get [Std.Refl R] : Moves R (MonadState.get : StateM σ σ) :=
  fun s => Std.Refl.refl s

lemma Moves.bind [IsTrans σ R] {m : StateM σ α} {f : α → StateM σ β}
    (hm : Moves R m) (hf : ∀ a, Moves R (f a)) : Moves R (m >>= f) :=
  fun s => IsTrans.trans _ _ _ (hm s) (hf _ _)

lemma Moves.bind_of_val [IsTrans σ R] {m : StateM σ α} {f : α → StateM σ β} {a : α}
    (hm : Moves R m) (ha : ∀ s, (m.run s).1 = a) (hf : Moves R (f a)) : Moves R (m >>= f) := by
  intro s
  rw [run_bind, ha s]
  exact IsTrans.trans _ _ _ (hm s) (hf _)

lemma Moves.map {m : StateM σ α} (f : α → β) (hm : Moves R m) : Moves R (f <$> m) := hm

lemma Moves.ite {c : Prop} [Decidable c] {m n : StateM σ α} (hm : c → Moves R m)
    (hn : ¬c → Moves R n) : Moves R (if c then m else n) := by
  split
  · exact hm ‹_›
  · exact hn ‹_›

end Rules

def Acts (g : σ → γ) (f : γ → γ) (m : StateM σ α) : Prop := ∀ s, g (m.run s).2 = f (g s)

section Actions

variable {g : σ → γ} {f f' : γ → γ} {m : StateM σ α} {k : α → StateM σ β}

lemma Moves.acts (hm : Keeps g m) : Acts g id m := hm

lemma Acts.bind (hm : Acts g f m) (hk : ∀ a, Acts g f' (k a)) : Acts g (f' ∘ f) (m >>= k) :=
  fun s => (hk _ _).trans (congrArg f' (hm s))

lemma Acts.tail (hm : Acts g f m) (hk : ∀ a, Keeps g (k a)) : Acts g f (m >>= k) :=
  hm.bind fun a => (hk a).acts

end Actions

def Triple (P : σ → Prop) (m : StateM σ α) (Q : α → σ → Prop) : Prop :=
  ∀ s, P s → Q (m.run s).1 (m.run s).2

abbrev Returns (P : σ → Prop) (m : StateM σ α) (x : α) (Q : σ → Prop) : Prop :=
  Triple P m fun a s => a = x ∧ Q s

section Triples

variable {P P' Q : σ → Prop} {R : β → σ → Prop} {m : StateM σ α} {f : α → StateM σ β}

lemma Triple.pure {a : β} (h : ∀ s, P s → R a s) : Triple P (Pure.pure a : StateM σ β) R :=
  fun s hs => h s hs

lemma Triple.bind {S : α → σ → Prop} (hm : Triple P m S) (hf : ∀ a, Triple (S a) (f a) R) :
    Triple P (m >>= f) R :=
  fun s hs => hf _ _ (hm s hs)

lemma Returns.bind {x : α} (hm : Returns P m x Q) (hf : Triple Q (f x) R) :
    Triple P (m >>= f) R := by
  intro s hs
  obtain ⟨hx, hq⟩ := hm s hs
  rw [run_bind, hx]
  exact hf _ hq

lemma Triple.ite {c : Prop} [Decidable c] {m n : StateM σ β} (hm : c → Triple P m R)
    (hn : ¬c → Triple P n R) : Triple P (if c then m else n) R := by
  split
  · exact hm ‹_›
  · exact hn ‹_›

lemma Triple.mono {S S' : α → σ → Prop} (hm : Triple P m S) (hs : ∀ a s, S a s → S' a s) :
    Triple P m S' :=
  fun s hp => hs _ _ (hm s hp)

lemma Moves.triple {I : σ → σ → Prop} (hm : Moves I m) (h : ∀ s t, P s → I s t → P' t) :
    Triple P m fun _ => P' :=
  fun s hs => h s _ hs (hm s)

end Triples

instance (P : σ → Prop) : Std.Refl (Preserves P) := ⟨fun _ => id⟩

instance (P : σ → Prop) : IsTrans σ (Preserves P) := ⟨fun _ _ _ h h' hs => h' (h hs)⟩

instance (f : σ → γ) : Std.Refl (Same f) := ⟨fun _ => rfl⟩

instance (f : σ → γ) : IsTrans σ (Same f) := ⟨fun _ _ _ h h' => Eq.trans h' h⟩

end YkLock.Library.StatePrograms
