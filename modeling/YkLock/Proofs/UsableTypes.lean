import YkLock.Proofs.HandlerRules
import YkLock.Proofs.RebootTransparency

/-! The device types that start-up and the configuration commands put into use. -/

namespace YkLock

open Library.Storage Library.StatePrograms Library.Runs

variable {D : Type}

def Board.recording (b : Board D) : Board (D × List Image) where
  at24cxx := b.at24cxx.recording
  feedback := b.feedback
  stack d n := b.stack d.1 n
  stackInfo d := b.stackInfo d.1
  afterTable := b.afterTable

def LockType.Usable (type : LockType) : Prop :=
  type.toByte.toNat < LockType.deviceTypeMax.toByte.toNat

instance (type : LockType) : Decidable type.Usable := inferInstanceAs (Decidable (_ < _))

/-- `lock_info_update` looks up the device id at start-up, for the type then in use, and after every
write, for the type of the record written. -/
structure TypesUsable (w : World (D × List Image)) : Prop where
  inUse : w.info.lockType.Usable
  written : ∀ image ∈ w.dev.2, (LockType.sanitised (Info.decode image).devType).Usable
  installed : w.installed = true
  selected : ∃ type, protocolSet type = some w.set

inductive Setup
  | event (e : Event)
  | reset

def setup (b : Board D) (a : Setup) (w : World D) : World D :=
  match a with
  | .event e => event b e w
  | .reset => boot b w

def Setup.StoresMax (a : Setup) (w : World D) (r : Info) : Prop :=
  match a with
  | .event (.frame rxMsg tail) =>
    accepted w ⟨rxMsg.bytes, tail⟩ = some .avcModifyAddrType ∧
      Buffer.sn ⟨rxMsg.bytes, tail⟩ 3 = r.sn ∧ Buffer.get ⟨rxMsg.bytes, tail⟩ 1 = 5
  | _ => False

instance (a : Setup) (w : World D) (r : Info) : Decidable (a.StoresMax w r) := by
  unfold Setup.StoresMax
  split <;> exact inferInstance

lemma usable_sanitised_iff (x : Byte) : (LockType.sanitised x).Usable ↔ x ≠ 5 := by
  revert x
  decide

structure Healthy (content : D → Image) (w : World (D × List Image)) : Prop where
  synced : w.Synced fun d => content d.1
  type : (w.record fun d => content d.1).devType ≠ 5
  written : ∀ image ∈ w.dev.2, (Info.decode image).devType ≠ 5

def KeepsHealthy (content : D → Image) (w w' : World (D × List Image)) : Prop :=
  Healthy content w → Healthy content w'

instance (content : D → Image) : Std.Refl (KeepsHealthy content) := ⟨fun _ h => h⟩

instance (content : D → Image) : IsTrans (World (D × List Image)) (KeepsHealthy content) :=
  ⟨fun _ _ _ h h' hw => h' (h hw)⟩

def KeepsListening (b : Board D) (content : D → Image) (r₀ : Info) (w w' : World D) : Prop :=
  (∃ r, Listens b content r₀ r w) → ∃ r, Listens b content r₀ r w'

instance (b : Board D) (content : D → Image) (r₀ : Info) :
    Std.Refl (KeepsListening b content r₀) := ⟨fun _ h => h⟩

instance (b : Board D) (content : D → Image) (r₀ : Info) :
    IsTrans (World D) (KeepsListening b content r₀) := ⟨fun _ _ _ h h' hw => h' (h hw)⟩

lemma listening_stores {b : Board D} {content : D → Image} (h : b.at24cxx.Reliable content)
    (r₀ : Info) : Stores b (KeepsListening b content r₀) fun _ => True where
  get k w := by
    rintro ⟨r, hw⟩
    obtain ⟨v, hv, -⟩ := id hw
    rw [configGet_readable h.read, loaded_of_synced (shows_config w hv)]
    exact ⟨r, hw⟩
  modify c _ w := by
    rintro ⟨r, hw⟩
    exact ⟨_, listens_configModify h hw c.1 c.2⟩

def ConfigWrite.Harmless (c : ConfigWrite) : Prop :=
  ∀ r : Info, r.devType ≠ 5 → (r.set c.1 c.2).devType ≠ 5

section Runs

variable {b : Board D} {content : D → Image} {w : World (D × List Image)} {r₀ r : Info}

lemma recording_reliable (h : b.at24cxx.Reliable content) :
    b.recording.at24cxx.Reliable fun d => content d.1 := Device.Reliable.recording h

lemma healthy_of_same {w' : World (D × List Image)} (hdev : w'.dev = w.dev)
    (hcache : w'.cache = w.cache) : KeepsHealthy content w w' := by
  rintro ⟨hsynced, htype, hwritten⟩
  have hrecord : (w'.record fun d => content d.1) = w.record fun d => content d.1 := by
    rw [World.record, World.record, hdev]
  exact ⟨hcache.trans (hsynced.trans hrecord.symm), hrecord ▸ htype, hdev ▸ hwritten⟩

lemma configModify_healthy (h : b.at24cxx.Reliable content) {c : ConfigWrite} (hc : c.Harmless) :
    Moves (KeepsHealthy content) (configModify b.recording c.1 c.2) := by
  intro w hw
  have hr := recording_reliable h
  have htype : (w.cache.set c.1 c.2).devType ≠ 5 := by
    rw [hw.synced]
    exact hc _ hw.type
  rw [configModify_reliable hr]
  refine ⟨stored_synced hr _ w, ?_, fun image himage => ?_⟩
  · rwa [record_stored hr]
  · rcases List.mem_cons.mp himage with rfl | himage
    · rwa [Info.decode_encode]
    · exact hw.written image himage

lemma configGet_healthy (h : b.at24cxx.Reliable content) (k : ConfigT) :
    Moves (KeepsHealthy content) (configGet b.recording k) := by
  intro w hw
  rw [configGet_readable (recording_reliable h).read, loaded_of_synced hw.synced]
  exact hw

lemma healthy_commands (h : b.at24cxx.Reliable content) :
    Commands b.recording (KeepsHealthy content) ConfigWrite.Harmless where
  get := configGet_healthy h
  modify _ hc := configModify_healthy h hc
  pinRead _ _ _ := healthy_of_same rfl rfl
  delay _ _ := healthy_of_same rfl rfl
  avcState _ _ := healthy_of_same rfl rfl
  pinWrite _ _ _ := healthy_of_same rfl rfl
  reads _ _ := healthy_of_same rfl rfl
  reset _ := healthy_of_same rfl rfl
  reply _ _ _ := healthy_of_same rfl rfl

lemma writes_harmless {i : HandlerIndex} {d : Buffer}
    (hi : i = .avcModifyAddrType → d.get 1 ≠ 5) (c : ConfigWrite) (hc : i.Writes d c) :
    c.Harmless := by
  cases i with
  | ykModifyAddr | coldLockModifyAddr =>
    obtain rfl : c = _ := hc
    exact fun _ hr => hr
  | ykProductionModifySn =>
    rcases hc with rfl | rfl
    · exact fun _ hr => hr
    · exact fun _ _ => show LockType.ykLock.toByte ≠ 5 by decide
  | avcModifySn =>
    rcases hc with rfl | rfl
    · exact fun _ hr => hr
    · exact fun _ _ => show LockType.avcSwitch.toByte ≠ 5 by decide
  | avcControlCommand | avcControlRequest =>
    obtain ⟨s, rfl⟩ := hc
    exact fun _ hr => hr
  | avcModifyAddrType =>
    rcases hc with rfl | rfl
    · exact fun _ _ => hi rfl
    · exact fun _ hr => hr
  | coldLockModifyTimeout =>
    rcases hc with rfl | rfl
    · exact fun _ hr => hr
    · exact fun _ hr => hr
  | _ => exact hc.elim

lemma refused_device_healthy (h : b.at24cxx.Reliable content) {d : Buffer} (hw : Healthy content w)
    (hsn : d.sn 3 ≠ (w.record fun d => content d.1).sn) :
    Healthy content ((funcAvcModifyDevice b.recording d).run w).2 := by
  let P (s : World (D × List Image)) : Prop := Healthy content s ∧
    (s.record fun d => content d.1).sn = (w.record fun d => content d.1).sn
  have hat (i : ℕ) : Returns P (d.at i) (d.get i) P :=
    fun s hs => ⟨rfl, at_moves (healthy_commands h).reads d i s hs.1, hs.2⟩
  have hsnAt : Returns P (d.snAt 3) ((d.sn 3).setWidth 32) P :=
    fun s hs => ⟨d.snAt_val 3 s, snAt_moves (healthy_commands h).reads d 3 s hs.1, hs.2⟩
  have hget : Returns P (getSn b.recording) ((w.record fun d => content d.1).sn.setWidth 32) P := by
    intro s hs
    rw [getSn, getConfig_synced (recording_reliable h).read .sn hs.1.synced, hs.1.synced, ← hs.2]
    exact ⟨rfl, hs⟩
  have hrest : Triple P (funcAvcModifyDevice b.recording d) fun _ => Healthy content := by
    refine (hat 1).bind ((hat 2).bind (hsnAt.bind (hget.bind ?_)))
    rw [if_neg (mt setWidth_sn_inj.mp hsn)]
    refine Returns.bind (Triple.pure fun s hs => ⟨rfl, hs⟩) ?_
    exact (replyDevice_moves (healthy_commands h).coded.handles trivial .error).triple fun s t hs hk => hk hs.1
  exact hrest w ⟨hw, rfl⟩

lemma boot_healthy (h : b.at24cxx.Reliable content)
    (htype : (w.record fun d => content d.1).devType ≠ 5)
    (hwritten : ∀ image ∈ w.dev.2, (Info.decode image).devType ≠ 5) :
    Healthy content (boot b.recording w) := by
  have hr := recording_reliable h
  have hdev : (boot b.recording w).dev = w.dev := boot_dev hr.read w
  have hrecord : ((boot b.recording w).record fun d => content d.1) =
      w.record fun d => content d.1 := by
    rw [World.record, World.record, hdev]
  obtain ⟨v, hv, -⟩ := listens_boot hr (b := b.recording) (w := w) rfl
  exact ⟨shows_config _ hv, hrecord ▸ htype, hdev ▸ hwritten⟩

def Sound (b : Board D) (content : D → Image) (w : World (D × List Image)) : Prop :=
  Healthy content w ∧ ∃ r₀ r, r₀.listening ≠ .nothing ∧
    Listens b.recording (fun d => content d.1) r₀ r w

lemma listens_inUse (hw : Listens b.recording (fun d => content d.1) r₀ r w) :
    w.info.lockType = .sanitised r.devType := by
  obtain ⟨v, hv, rfl, -⟩ := hw
  rw [hv.info]
  rfl

lemma set_selected {l : Listening} (hl : l ≠ .nothing) : ∃ type, protocolSet type = some l.set := by
  cases l with
  | nothing => exact (hl rfl).elim
  | cold => exact ⟨.ykColdLock, rfl⟩
  | yk a => exact ⟨.ykLock, rfl⟩
  | avcSwitch a => exact ⟨.avcSwitch, rfl⟩

lemma sound_usable (hw : Sound b content w) : TypesUsable w := by
  obtain ⟨⟨-, htype, hwritten⟩, r₀, r, hne, hl⟩ := hw
  obtain rfl := hl.record
  have huse := listens_inUse hl
  obtain ⟨v, hv, -, hset, hinst, -⟩ := hl
  refine ⟨?_, fun image himage => (usable_sanitised_iff _).mpr (hwritten image himage), ?_, ?_⟩
  · rw [huse]
    exact (usable_sanitised_iff _).mpr htype
  · rw [hv.installed, hinst]
    exact decide_eq_true hne
  · rw [hv.set, hset]
    exact set_selected hne

lemma boot_sound (h : b.at24cxx.Reliable content)
    (htype : (w.record fun d => content d.1).devType ≠ 5)
    (hwritten : ∀ image ∈ w.dev.2, (Info.decode image).devType ≠ 5) :
    Sound b content (boot b.recording w) :=
  ⟨boot_healthy h htype hwritten, _, _, mt (listening_eq_nothing_iff _).mp htype,
    listens_boot (recording_reliable h) rfl⟩

lemma frame_sound (h : b.at24cxx.Reliable content) (hw : Sound b content w) {d : Buffer}
    (hd : accepted w d = some .avcModifyAddrType → d.get 1 = 5 →
      d.sn 3 ≠ (w.record fun d => content d.1).sn) : Sound b content (deliver b.recording d w) := by
  obtain ⟨hhealthy, r₀, r, hne, hl⟩ := hw
  obtain rfl := hl.record
  by_cases hacc : w.installed = true → accepted w d = none
  · obtain ⟨indices, hrun⟩ := rxCb_run_of_refused (b := b.recording) hacc
    obtain ⟨v, ⟨h1, h2, h3, h4, h5, h6, h7, h8⟩, hr, hset, hinst, hfilter, hreset⟩ := hl
    rw [deliver, hrun, afterReset, if_neg (by simp [h8.trans hreset])]
    have hreads : KeepsHealthy content w { w with reads := indices } := healthy_of_same rfl rfl
    exact ⟨hreads hhealthy, r₀, _, hne, v, ⟨h1, h2, h3, h4, h5, h6, h7, h8⟩, hr,
      hset, hinst, hfilter, hreset⟩
  · obtain ⟨hinst, hsome⟩ := Classical.not_imp.mp hacc
    obtain ⟨i, hi⟩ := Option.ne_none_iff_exists'.mp hsome
    have hreads : KeepsHealthy content w { w with reads := parserReads d ++ w.reads } :=
      healthy_of_same rfl rfl
    have hrun : Healthy content ((rxCb b.recording d).run w).2 := by
      rw [rxCb_run_of_accepted hinst hi]
      by_cases hbad : i = .avcModifyAddrType ∧ d.get 1 = 5
      · obtain ⟨rfl, h5⟩ := hbad
        exact refused_device_healthy h (hreads hhealthy) (hd hi h5)
      · refine protocolHandler_moves (healthy_commands h) d i (fun c hc => ?_) _ (hreads hhealthy)
        exact writes_harmless (fun hi h5 => hbad ⟨hi, h5⟩) c hc
    have hafter : Healthy content (deliver b.recording d w) := by
      rw [deliver, afterReset]
      split
      · exact boot_healthy h hrun.type hrun.written
      · exact hrun
    have hlistens := listens_deliver (recording_reliable h) hl hinst hi
    refine ⟨hafter, _, _, ?_, hlistens⟩
    by_cases hc : i = .ykModifyAddr ∧ d.sn 6 = (w.record fun d => content d.1).sn
    · rw [if_pos hc, ← hlistens.record]
      exact mt (listening_eq_nothing_iff _).mp hafter.type
    · rwa [if_neg hc]

lemma sound_of_moves {m : Fw (D × List Image) RtErr} (hm : Moves (KeepsHealthy content) m)
    (hl : ∀ r₀, Moves (KeepsListening b.recording (fun d => content d.1) r₀) m)
    (hw : Sound b content w) : Sound b content (m.run w).2 := by
  obtain ⟨hhealthy, r₀, r, hne, hlistens⟩ := hw
  obtain ⟨r', hlistens'⟩ := hl r₀ w ⟨r, hlistens⟩
  exact ⟨hm w hhealthy, r₀, r', hne, hlistens'⟩

lemma setup_sound (h : b.at24cxx.Reliable content) (a : Setup) (hw : Sound b content w)
    (ha : ¬ a.StoresMax w (w.record fun d => content d.1)) :
    Sound b content (setup b.recording a w) := by
  have hs := (healthy_commands (b := b) h).toStores
  have hl (r₀ : Info) := listening_stores (recording_reliable h) r₀
  cases a with
  | reset => exact boot_sound h hw.1.type hw.1.written
  | event e =>
    cases e with
    | frame rxMsg tail => exact frame_sound h hw fun hi h5 hsn => ha ⟨hi, hsn, h5⟩
    | cmdModifyDevice type =>
      refine sound_of_moves (cmdModifyDevice_moves hs fun t _ ht _ _ => ?_)
        (fun r₀ => cmdModifyDevice_moves (hl r₀) fun _ _ _ => trivial) hw
      intro h5
      have hnat : t.toNat % 2 ^ 8 = 5 := congrArg BitVec.toNat (show t.setWidth 8 = 5 from h5)
      omega
    | cmdModifyAddr addr =>
      exact sound_of_moves (cmdModifyAddr_moves hs fun _ _ _ hr => hr)
        (fun r₀ => cmdModifyAddr_moves (hl r₀) fun _ _ => trivial) hw
    | cmdModifySn sn =>
      exact sound_of_moves (cmdModifySn_moves hs fun _ _ _ hr => hr)
        (fun r₀ => cmdModifySn_moves (hl r₀) fun _ _ => trivial) hw

lemma not_usable_of_storesMax (h : b.at24cxx.Reliable content) (a : Setup)
    (hw : Sound b content w) (ha : a.StoresMax w (w.record fun d => content d.1)) :
    ¬ TypesUsable (setup b.recording a w) := by
  cases a with
  | reset => exact ha.elim
  | event e =>
    cases e with
    | frame rxMsg tail =>
      obtain ⟨hi, hsn, h5⟩ := ha
      have hinst := (sound_usable hw).installed
      obtain ⟨-, r₀, r, -, hl⟩ := hw
      obtain rfl := hl.record
      have huse := listens_inUse (listens_deliver (recording_reliable h) hl hinst hi)
      intro husable
      have htype := husable.inUse
      rw [setup, event, huse, Info.command, if_pos hsn] at htype
      exact (usable_sanitised_iff _).mp htype h5
    | _ => exact ha.elim

end Runs

theorem types_usable_iff (b : Board D) (content : D → Image) (d : D) (as : List Setup)
    (h : b.at24cxx.Reliable content) :
    (∀ pre, pre <+: as → TypesUsable
      (run (setup b.recording) pre (boot b.recording (poweredOn (d, []))))) ↔
      (Info.decode (content d)).devType ≠ 5 ∧
        Enabled (setup b.recording) (fun a w => ¬ a.StoresMax w (w.record fun d => content d.1)) as
          (boot b.recording (poweredOn (d, []))) := by
  by_cases htype : (Info.decode (content d)).devType = 5
  · refine iff_of_false (fun hall => ?_) fun hh => hh.1 htype
    have huse := listens_inUse (listens_boot (recording_reliable h) (b := b.recording)
      (w := poweredOn (d, [])) rfl)
    have hboot := (hall [] List.nil_prefix).inUse
    rw [run_nil, huse] at hboot
    exact (usable_sanitised_iff _).mp hboot htype
  · rw [and_iff_right htype]
    refine forall_prefix_iff (I := Sound b content) (fun w hw => sound_usable hw)
      (fun a w hw ha => setup_sound h a hw ha)
      (fun a w hw ht ha => not_usable_of_storesMax h a hw ha ht) as ?_
    exact boot_sound h htype fun image himage => (List.not_mem_nil himage).elim

theorem types_usable_configured :
    TypesUsable (run (setup (bench followingRelay).recording)
      [.event (.cmdModifyDevice (some 2)), .reset, .event (.frame ⟨0x0300D6, true, false, 7, fun i =>
        (withCrc [0x03, 0x00, 0xD6, 0x05, 0x37, 0x00, 0x00, 0x00, 0x02]).getD (i + 3) 0⟩ fun _ => 0)]
      (boot (bench followingRelay).recording (poweredOn (Info.encode ⟨0, 0, 5, 5, 0xD6, 1⟩, [])))) :=
  (types_usable_iff _ id _ _ (bench_reliable _)).mpr (by decide +kernel) _ List.prefix_rfl

theorem types_usable_fail : ¬ ∀ d : Image,
    TypesUsable (boot (bench followingRelay).recording (poweredOn (d, []))) := by
  intro h
  exact absurd (h (Info.encode ⟨0, 5, 5, 5, 1, 1⟩)).inUse (by decide +kernel)

end YkLock
