import YkLock.Proofs.Reception
import YkLock.Proofs.RegisterMachine

/-! Whether a restart would change what the device receives. -/

namespace YkLock

open Library.Storage Library.StatePrograms Library.Runs

variable {D : Type}

def Transparent (b : Board D) (w : World D) : Prop :=
  ∀ rxMsg tail, Receives w rxMsg tail ↔ Receives (boot b w) rxMsg tail

def Event.Arrives (e : Event) (w : World D) : Prop :=
  match e with
  | .frame rxMsg tail => Receives w rxMsg tail
  | _ => True

/-- The event leaves the family of commands and its address as they are, or restarts the CPU. -/
def Event.Keeps (e : Event) (r : Info) : Prop :=
  match e with
  | .frame rxMsg tail =>
    let d : Buffer := ⟨rxMsg.bytes, tail⟩
    if d.get 4 = 0x07 then Info.listening { r with devType := 0 } = r.listening
    else if d.get 4 = 0x37 then Info.listening { r with devType := 4 } = r.listening
    else if d.get 4 = 0x33 then
      d.sn 3 = r.sn → Info.listening { r with devType := d.get 1, addr := d.get 2 } = r.listening
    else True
  | .cmdModifyDevice (some type) =>
    type.toNat < 5 → Info.listening { r with devType := type.setWidth 8 } = r.listening
  | .cmdModifyAddr (some addr) => Info.listening { r with addr := addr.setWidth 8 } = r.listening
  | _ => True

instance (e : Event) (w : World D) : Decidable (e.Arrives w) := by
  unfold Event.Arrives
  split <;> exact inferInstance

instance (e : Event) (r : Info) : Decidable (e.Keeps r) := by
  unfold Event.Keeps
  split <;> exact inferInstance

def Listens (b : Board D) (content : D → Image) (r₀ r : Info) (w : World D) : Prop :=
  ∃ v, Shows b content v w ∧ v.record = r ∧ v.set = r₀.listening.set ∧
    v.installed = decide (r₀.listening ≠ .nothing) ∧ v.filter = mainFilter b (r₀.lockInfo b) ∧
    v.reset = false

section Families

lemma follow_listening (r : Info) (type : LockType) :
    (r.follow type).listening = Info.listening { r with devType := type.toByte } := by
  have htype : LockType.sanitised type.toByte = type := by cases type <;> rfl
  rw [Info.follow]
  by_cases ht : LockType.sanitised r.devType ≠ type
  · rw [if_pos ht]
  · rw [if_neg ht, Info.listening, Info.listening, htype, not_not.mp ht]

lemma listening_cold_addr {r : Info} (hr : r.listening = .cold) (addr : Byte) :
    Info.listening { r with addr := addr } = .cold := by
  rw [Info.listening] at hr ⊢
  cases ht : LockType.sanitised r.devType <;> simp_all

lemma sanitised_eq_max_iff (x : Byte) : LockType.sanitised x = .deviceTypeMax ↔ x = 5 := by
  revert x
  decide

lemma listening_eq_nothing_iff (r : Info) : r.listening = .nothing ↔ r.devType = 5 := by
  rw [← sanitised_eq_max_iff, Info.listening]
  cases LockType.sanitised r.devType <;> simp

lemma mem_set_cold {l : Listening} {code : Byte} (h : ⟨code, .coldLockModifyAddr⟩ ∈ l.set) :
    l = .cold := by
  have hyk : ∀ e ∈ protocolSetYk, e.index ≠ .coldLockModifyAddr := by decide
  have havc : ∀ e ∈ protocolSetAvcSwitch, e.index ≠ .coldLockModifyAddr := by decide
  cases l with
  | nothing => exact (List.not_mem_nil h).elim
  | cold => rfl
  | yk a => exact (hyk _ h rfl).elim
  | avcSwitch a => exact (havc _ h rfl).elim

lemma mem_set_avcSwitch {l : Listening} {code : Byte} (h : ⟨code, .avcModifyAddrType⟩ ∈ l.set) :
    ∃ a, l = .avcSwitch a := by
  have hyk : ∀ e ∈ protocolSetYk, e.index ≠ .avcModifyAddrType := by decide
  have hcold : ∀ e ∈ protocolSetColdLock, e.index ≠ .avcModifyAddrType := by decide
  cases l with
  | nothing => exact (List.not_mem_nil h).elim
  | cold => exact (hcold _ h rfl).elim
  | yk a => exact (hyk _ h rfl).elim
  | avcSwitch a => exact ⟨a, rfl⟩

lemma command_listening {r : Info} {i : HandlerIndex} {rxMsg : CanMsg} {tail : ℕ → Byte}
    (hcode : Buffer.get ⟨rxMsg.bytes, tail⟩ 4 = i.funcCode)
    (hreset : ¬ (i = .ykModifyAddr ∧ Buffer.sn ⟨rxMsg.bytes, tail⟩ 6 = r.sn))
    (hcold : i = .coldLockModifyAddr → r.listening = .cold) :
    (Event.frame rxMsg tail).Keeps r ↔
      (r.command i ⟨rxMsg.bytes, tail⟩).listening = r.listening := by
  simp only [Event.Keeps, hcode]
  cases i with
  | ykModifyAddr =>
    have hsn : Buffer.sn ⟨rxMsg.bytes, tail⟩ 6 ≠ r.sn := fun h => hreset ⟨rfl, h⟩
    exact iff_of_true trivial (by rw [Info.command, if_neg hsn])
  | ykProductionModifySn =>
    rw [Info.command, follow_listening]
    exact Iff.rfl
  | avcModifySn =>
    rw [Info.command, follow_listening]
    exact Iff.rfl
  | avcModifyAddrType =>
    rw [Info.command]
    by_cases hsn : Buffer.sn ⟨rxMsg.bytes, tail⟩ 3 = r.sn
    · rw [if_pos hsn]
      exact ⟨fun h => h hsn, fun h _ => h⟩
    · rw [if_neg hsn]
      exact iff_of_true (fun h => (hsn h).elim) rfl
  | coldLockModifyAddr =>
    refine iff_of_true trivial ?_
    rw [Info.command]
    split
    · rw [listening_cold_addr (hcold rfl), hcold rfl]
    · rfl
  | avcControlCommand =>
    refine iff_of_true trivial ?_
    rw [Info.command]
    split_ifs <;> rfl
  | avcControlRequest =>
    refine iff_of_true trivial ?_
    rw [Info.command]
    split_ifs <;> rfl
  | _ => exact iff_of_true trivial rfl

lemma command_nothing {r : Info} {i : HandlerIndex} {d : Buffer} (hi : i ≠ .avcModifyAddrType)
    (h : (r.command i d).listening = .nothing) : r.listening = .nothing := by
  rw [listening_eq_nothing_iff] at h ⊢
  have hyk : LockType.ykLock.toByte ≠ 5 := by decide
  have havc : LockType.avcSwitch.toByte ≠ 5 := by decide
  cases i with
  | avcModifyAddrType => exact (hi rfl).elim
  | ykProductionModifySn =>
    rw [← listening_eq_nothing_iff, Info.command, follow_listening, listening_eq_nothing_iff] at h
    exact (hyk h).elim
  | avcModifySn =>
    rw [← listening_eq_nothing_iff, Info.command, follow_listening, listening_eq_nothing_iff] at h
    exact (havc h).elim
  | ykModifyAddr | coldLockModifyAddr | avcControlCommand | avcControlRequest =>
    rw [Info.command] at h
    split_ifs at h <;> exact h
  | _ => exact h

end Families

section Steps

variable {b : Board D} {content : D → Image} {r₀ r : Info} {w : World D}

lemma Listens.record (hw : Listens b content r₀ r w) : w.record content = r := by
  obtain ⟨v, hv, hr, -⟩ := hw
  exact hv.record.trans hr

lemma Listens.reset (hw : Listens b content r₀ r w) : w.reset = false := by
  obtain ⟨v, hv, -, -, -, -, hreset⟩ := hw
  exact hv.reset.trans hreset

lemma Listens.reads (hw : Listens b content r₀ r w) (indices : List ℕ) :
    Listens b content r₀ r { w with reads := indices } := by
  obtain ⟨v, hv, hrest⟩ := hw
  exact ⟨v, ⟨hv.record, hv.cache, hv.info, hv.set, hv.installed, hv.filter, hv.sent, hv.reset⟩, hrest⟩

lemma receives_iff (hw : Listens b content r₀ r w) (rxMsg : CanMsg) (tail : ℕ → Byte) :
    Receives w rxMsg tail ↔ Hears b r₀ r rxMsg tail := by
  obtain ⟨v, hv, rfl, hset, hinst, hfilter, -⟩ := hw
  rw [Receives, Hears, accepted_eq, hv.info, hv.set, hv.filter, hv.installed, hset, hinst, hfilter,
    decide_eq_true_iff]
  refine and_congr_right fun _ => ⟨And.right, fun hp => ⟨fun hn => ?_, hp⟩⟩
  rw [hn] at hp
  obtain ⟨-, e, he, -⟩ := parse_isSome_iff.mp hp
  exact List.not_mem_nil he

lemma listens_of_boot {v : View} (hv : Shows b content (v.boot b) w) :
    Listens b content v.record v.record w :=
  ⟨_, hv, rfl, protocolSet_listening _, protocolSet_installed _, rfl, rfl⟩

variable (h : b.at24cxx.Reliable content)
include h

lemma listens_boot (hr : w.record content = r) : Listens b content r r (boot b w) :=
  listens_of_boot (v := ⟨r, [], false, [], w.sent, false⟩) (boot_shows h hr rfl)

lemma transparent_iff (hw : Listens b content r₀ r w) :
    Transparent b w ↔ ∀ rxMsg tail, Hears b r₀ r rxMsg tail ↔ Hears b r r rxMsg tail := by
  simp only [Transparent, receives_iff hw, receives_iff (listens_boot h hw.record)]

lemma transparent_of_eq (hw : Listens b content r₀ r w) (hr : r₀.listening = r.listening) :
    Transparent b w :=
  (transparent_iff h hw).mpr fun rxMsg tail => hears_congr hr rxMsg tail

lemma not_transparent_of_ne (hw : Listens b content r₀ r w) (hr : r₀.listening ≠ r.listening)
    (hnothing : r.listening = .nothing → ∃ a, r₀.listening = .avcSwitch a) : ¬ Transparent b w := by
  intro ht
  obtain ⟨rxMsg, hne⟩ := hears_of_ne (b := b) hr hnothing fun _ => 0
  exact hne ((transparent_iff h hw).mp ht rxMsg _)

def Follows (b : Board D) (content : D → Image) (e : Event) (r₀ r : Info) (w' : World D) : Prop :=
  (∃ r', Listens b content r' r' w' ∧ e.Keeps r) ∨
    ∃ r', Listens b content r₀ r' w' ∧ (e.Keeps r ↔ r'.listening = r.listening) ∧
      (r'.listening = .nothing → r.listening = .nothing ∨ ∃ a, r₀.listening = .avcSwitch a)

lemma listens_configModify (hw : Listens b content r₀ r w) (k : ConfigT) (x : k.Value) :
    Listens b content r₀ (r.set k x) ((configModify b k x).run w).2 := by
  obtain ⟨v, hv, rfl, hset, hinst, hfilter, hreset⟩ := hw
  exact ⟨_, (configModify_shows h k x w hv).2, rfl, hset, hinst, hfilter, hreset⟩

omit h in
lemma listens_index (hw : Listens b content r₀ r w) {d : Buffer} {i : HandlerIndex}
    (hi : accepted w d = some i) : ⟨d.get 4, i⟩ ∈ r₀.listening.set := by
  obtain ⟨v, hv, -, hset, -⟩ := hw
  rw [accepted_eq, hv.set, hset, ← protocolSet_listening] at hi
  rw [← protocolSet_listening]
  exact (lookup_eq_some_iff _ _).mp (parse_eq_some_iff.mp hi).2

omit h in
lemma listens_code (hw : Listens b content r₀ r w) {d : Buffer} {i : HandlerIndex}
    (hi : accepted w d = some i) : d.get 4 = i.funcCode := by
  have hindex := listens_index hw hi
  rw [← protocolSet_listening] at hindex
  exact funcCode_eq hindex

lemma listens_deliver (hw : Listens b content r₀ r w) {d : Buffer} {i : HandlerIndex}
    (hinst : w.installed = true) (hi : accepted w d = some i) :
    Listens b content (if i = .ykModifyAddr ∧ d.sn 6 = r.sn then r.command i d else r₀)
      (r.command i d) (deliver b d w) := by
  obtain ⟨v, hv, rfl, hset, hv', hfilter, hreset⟩ := hw
  rw [accepted_eq, hv.info, hv.set] at hi
  obtain ⟨s, s', hshows⟩ := deliver_shows h hv (hv.installed.symm.trans hinst) hi
  rw [View.deliver, View.command, hreset, Bool.false_or] at hshows
  by_cases hc : i = .ykModifyAddr ∧ d.sn 6 = v.record.sn
  · rw [decide_eq_true hc, if_pos rfl] at hshows
    rw [if_pos hc]
    exact listens_of_boot hshows
  · rw [decide_eq_false hc, if_neg Bool.false_ne_true] at hshows
    rw [if_neg hc]
    exact ⟨_, hshows, rfl, hset, hv', hfilter, rfl⟩

lemma frame_follows (hw : Listens b content r₀ r w) (hr : r₀.listening = r.listening)
    {rxMsg : CanMsg} {tail : ℕ → Byte} (hd : Receives w rxMsg tail) :
    Follows b content (.frame rxMsg tail) r₀ r (event b (.frame rxMsg tail) w) := by
  obtain ⟨i, hi⟩ := Option.isSome_iff_exists.mp hd.2.2
  have hindex := listens_index hw hi
  have hcode : Buffer.get ⟨rxMsg.bytes, tail⟩ 4 = i.funcCode := listens_code hw hi
  have hlistens := listens_deliver h hw hd.2.1 hi
  by_cases hc : i = .ykModifyAddr ∧ Buffer.sn ⟨rxMsg.bytes, tail⟩ 6 = r.sn
  · rw [if_pos hc] at hlistens
    refine Or.inl ⟨_, hlistens, ?_⟩
    rw [hc.1] at hcode
    simp only [Event.Keeps, hcode]
    trivial
  · rw [if_neg hc] at hlistens
    have hcold (hi : i = .coldLockModifyAddr) : r.listening = .cold := by
      rw [hi] at hindex
      exact hr.symm.trans (mem_set_cold hindex)
    refine Or.inr ⟨_, hlistens, command_listening hcode hc hcold, fun hn => ?_⟩
    by_cases hi : i = .avcModifyAddrType
    · rw [hi] at hindex
      exact Or.inr (mem_set_avcSwitch hindex)
    · exact Or.inl (command_nothing hi hn)

omit h in
lemma follows_self (hw : Listens b content r₀ r w) {e : Event} (he : e.Keeps r) :
    Follows b content e r₀ r w :=
  Or.inr ⟨r, hw, iff_of_true he rfl, Or.inl⟩

lemma event_follows (hw : Listens b content r₀ r w) (hr : r₀.listening = r.listening) {e : Event}
    (he : e.Arrives w) : Follows b content e r₀ r (event b e w) := by
  cases e with
  | frame rxMsg tail => exact frame_follows h hw hr he
  | cmdModifyDevice type =>
    cases type with
    | none => exact follows_self hw trivial
    | some type =>
      by_cases ht : type.toNat < 5
      · have hrun : event b (.cmdModifyDevice (some type)) w =
            ((configModify b .deviceType (type.setWidth 8)).run w).2 := by
          simp [event, cmdModifyDevice, ht, modifyDevice]
        rw [hrun]
        refine Or.inr ⟨_, listens_configModify h hw .deviceType _,
          ⟨fun hk => hk ht, fun hk _ => hk⟩, fun hn => ?_⟩
        rw [listening_eq_nothing_iff] at hn
        have htype := congrArg BitVec.toNat hn
        simp [Info.set] at htype
        omega
      · have hrun : event b (.cmdModifyDevice (some type)) w = w := by
          simp [event, cmdModifyDevice, ht]
        rw [hrun]
        exact follows_self hw fun hlt => (ht hlt).elim
  | cmdModifyAddr addr =>
    cases addr with
    | none => exact follows_self hw trivial
    | some addr =>
      refine Or.inr ⟨_, listens_configModify h hw .addr (addr.setWidth 8), Iff.rfl, fun hn => ?_⟩
      rw [listening_eq_nothing_iff] at hn
      exact Or.inl ((listening_eq_nothing_iff r).mpr hn)
  | cmdModifySn sn =>
    cases sn with
    | none => exact follows_self hw trivial
    | some sn => exact Or.inr ⟨_, listens_configModify h hw .sn sn, iff_of_true trivial rfl, Or.inl⟩

end Steps

def UpToDate (b : Board D) (content : D → Image) (w : World D) : Prop :=
  ∃ r₀, Listens b content r₀ (w.record content) w ∧
    r₀.listening = (w.record content).listening

def StaysTransparent (b : Board D) (events : List Event) (w : World D) : Prop :=
  ∀ pre, pre <+: events → Transparent b (run (event b) pre w)

theorem reboot_transparent_iff (b : Board D) (content : D → Image) (w : World D)
    (events : List Event) (h : b.at24cxx.Reliable content)
    (hevents : Enabled (event b) Event.Arrives events (boot b w)) :
    StaysTransparent b events (boot b w) ↔
      Enabled (event b) (fun e w => e.Keeps (w.record content)) events (boot b w) := by
  refine forall_prefix_iff_enabled (I := UpToDate b content) ?_ ?_ ?_ hevents ?_
  · rintro w ⟨r₀, hw, hr⟩
    exact transparent_of_eq h hw hr
  · rintro e w ⟨r₀, hw, hr⟩ he hk
    rcases event_follows h hw hr he with ⟨r', hw', -⟩ | ⟨r', hw', hkeep, -⟩
    · obtain rfl := hw'.record
      exact ⟨_, hw', rfl⟩
    · obtain rfl := hw'.record
      exact ⟨r₀, hw', hr.trans (hkeep.mp hk).symm⟩
  · rintro e w ⟨r₀, hw, hr⟩ he ht
    rcases event_follows h hw hr he with ⟨-, -, hk⟩ | ⟨r', hw', hkeep, hnothing⟩
    · exact hk
    · by_contra hk
      have hne : r₀.listening ≠ r'.listening := fun heq => hk (hkeep.mpr (heq.symm.trans hr))
      refine not_transparent_of_ne h hw' hne (fun hn => (hnothing hn).resolve_left fun hw₀ => ?_) ht
      exact hne (hr.trans (hw₀.trans hn.symm))
  · have hw := listens_boot h (b := b) (w := w) rfl
    have hr := hw.record
    exact ⟨_, by rwa [← hr] at hw, by rw [hr]⟩

theorem reboot_transparent_restart : StaysTransparent (bench followingRelay)
    [.cmdModifyDevice (some 2), .cmdModifySn (some 2),
      .frame ⟨0x0300D6, true, false, 7, fun i =>
        (withCrc [0x03, 0x00, 0xD6, 0x05, 0x03, 0x07, 0x00, 0x00, 0x02]).getD (i + 3) 0⟩ fun _ => 0,
      .cmdModifyAddr (some 7)]
    (boot (bench followingRelay) (powered ⟨0, 0, 5, 5, 0xD6, 1⟩)) :=
  (reboot_transparent_iff _ id _ _ (bench_reliable _) (by decide +kernel)).mpr (by decide +kernel)

theorem reboot_transparent_fails :
    ¬ ∀ (b : Board Image) (content : Image → Image) (w : World Image) (events : List Event),
      b.at24cxx.Reliable content → Enabled (event b) Event.Arrives events (boot b w) →
      StaysTransparent b events (boot b w) := by
  intro h
  have hmoved := h (bench followingRelay) id (powered ⟨0, 4, 5, 5, 1, 1⟩) [.cmdModifyAddr (some 7)]
    (bench_reliable _) (by decide) _ List.prefix_rfl (probe 0x19 0x07 0x31) fun _ => 0
  exact absurd hmoved (by decide +kernel)

end YkLock
