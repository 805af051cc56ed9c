import YkLock.Proofs.ConfigStore
import YkLock.Proofs.ReliableTransfers
import YkLock.Model.Bench

/-! Configuration calls when EEPROM transfers may fail. -/

namespace YkLock

open Library.Records Library.Storage Library.StatePrograms Library.Runs

variable {D : Type}

def Succeeds (b : Board D) (c : ConfigCall) (w : World D) : Prop := (c.run b w).1 = true

instance (b : Board D) (c : ConfigCall) (w : World D) : Decidable (Succeeds b c w) :=
  inferInstanceAs (Decidable (_ = _))

def InRange : (k : ConfigT) → k.Value → Prop
  | .sn, v => v.toNat < 2 ^ 24
  | _, _ => True

lemma fits_of_inRange {k : ConfigT} {v : k.Value} (h : InRange k v) : Info.fields.Fits k v := by
  cases k with
  | sn => exact (Info.fits_sn_iff v).mpr h
  | _ => exact Info.fits_of_ne_sn (by decide) v

section Faulty

variable {b : Board D} {content : D → Image} (h : b.at24cxx.Faulty content)
include h

lemma records_faulty : b.records.Faulty fun d => Info.decode (content d) := h.decoded Info.image

lemma get_value {k : ConfigT} {w : World D} {x : k.Value}
    (hx : ((configGet b k).run w).1 = some x) : x = (w.record content).get k := by
  rw [(configGet_cached k w).1] at hx
  obtain ⟨r, hr, rfl⟩ := Option.map_eq_some_iff.mp hx
  rw [(records_faulty h).read_some _ _ hr]
  rfl

lemma get_record (k : ConfigT) (w : World D) :
    (configStep b (.get k) w).record content = w.record content := by
  have hc : (configStep b (.get k) w).cached = w.cached.load b.records := (configGet_cached k w).2
  exact (congrArg (fun s => Info.decode (content s.dev)) hc).trans
    (Cached.content_load (records_faulty h) w.cached)

lemma modify_record {k : ConfigT} {v : k.Value} {w : World D} (hs : Succeeds b (.modify k v) w) :
    (configStep b (.modify k v) w).record content = w.cache.set k v ∧
      (configStep b (.modify k v) w).cache = w.cache.set k v := by
  obtain ⟨hok, hcached⟩ := configModify_cached k v w
  have hsave := Cached.save_ok (records_faulty h) (hok.mp (of_decide_eq_true hs))
  rw [← hcached] at hsave
  exact hsave

lemma step_synced_of_succeeds (c : ConfigCall) (w : World D) (hs : Succeeds b c w) :
    (configStep b c w).Synced content := by
  cases c with
  | get k =>
    obtain ⟨hval, hcached⟩ := configGet_cached k w
    obtain ⟨x, hx⟩ := Option.isSome_iff_exists.mp hs
    rw [hval] at hx
    obtain ⟨r, hr, -⟩ := Option.map_eq_some_iff.mp hx
    have hload := Cached.load_synced_of_some (records_faulty h) (s := w.cached) hr
    rw [← hcached] at hload
    exact hload
  | modify k v =>
    obtain ⟨hr, hc⟩ := modify_record h hs
    exact hc.trans hr.symm

lemma step_of_not_succeeds {c : ConfigCall} {w : World D} (hs : ¬ Succeeds b c w) :
    (configStep b c w).record content = w.record content ∧ (configStep b c w).cache = w.cache := by
  cases c with
  | get k =>
    obtain ⟨hval, hcached⟩ := configGet_cached (b := b) k w
    have hnone : (b.records.read w.dev).1 = none := by
      by_contra hne
      obtain ⟨r, hr⟩ := Option.ne_none_iff_exists'.mp hne
      exact hs (by rw [Succeeds, ConfigCall.run, hval, hr]; rfl)
    refine ⟨get_record h k w, ?_⟩
    have hcache : (configStep b (.get k) w).cache = (w.cached.load b.records).cache :=
      congrArg Cached.cache hcached
    rw [hcache]
    change (b.records.read w.dev).1.getD w.cache = w.cache
    rw [hnone]
    rfl
  | modify k v =>
    obtain ⟨hok, hcached⟩ := configModify_cached k v w
    have hfalse : (Cached.save b.records 3 (w.cache.set k v) w.cached).1 = false := by
      rw [← Bool.not_eq_true, ← hok]
      exact fun he => hs (decide_eq_true he)
    have hsave := Cached.save_fail (records_faulty h) hfalse
    rw [← hcached] at hsave
    exact hsave

lemma step_synced (c : ConfigCall) (w : World D) (hw : w.Synced content) :
    (configStep b c w).Synced content := by
  by_cases hs : Succeeds b c w
  · exact step_synced_of_succeeds h c w hs
  · obtain ⟨hr, hc⟩ := step_of_not_succeeds h hs
    exact hc.trans (hw.trans hr.symm)

lemma step_get_of_ne {k : ConfigT} {c : ConfigCall} (hc : ∀ v, c ≠ .modify k v) {w : World D}
    (hw : w.Synced content) :
    ((configStep b c w).record content).get k = (w.record content).get k := by
  cases c with
  | get j => rw [get_record h]
  | modify j u =>
    have hjk : k ≠ j := by
      rintro rfl
      exact hc u rfl
    by_cases hs : Succeeds b (.modify j u) w
    · rw [(modify_record h hs).1, hw]
      exact Info.fields.get_set_of_ne j k u _ hjk
    · rw [(step_of_not_succeeds h hs).1]

end Faulty

structure WritesOwnField (b : Board D) (content : D → Image) (calls : List ConfigCall)
    (w : World D) : Prop where
  frame : ∀ pre k v, pre ++ [.modify k v] <+: calls → InRange k v →
    Succeeds b (.modify k v) (run (configStep b) pre w) →
    ∀ j, j ≠ k → ((run (configStep b) (pre ++ [.modify k v]) w).record content).get j =
      ((run (configStep b) pre w).record content).get j
  readBack : ∀ pre k v mid x, pre ++ .modify k v :: (mid ++ [.get k]) <+: calls → InRange k v →
    Succeeds b (.modify k v) (run (configStep b) pre w) → (∀ u, .modify k u ∉ mid) →
    ((configGet b k).run (run (configStep b) (pre ++ .modify k v :: mid) w)).1 = some x → x = v
  refused : ∀ pre k v, pre ++ [.modify k v] <+: calls →
    ¬ Succeeds b (.modify k v) (run (configStep b) pre w) →
    (run (configStep b) (pre ++ [.modify k v]) w).record content =
        (run (configStep b) pre w).record content ∧
      (run (configStep b) (pre ++ [.modify k v]) w).cache = (run (configStep b) pre w).cache

def initRead (b : Board D) (w : World D) : Info :=
  match (b.at24cxx.read w.dev).1 with
  | none => b.stackInfo w.dev
  | some image => Info.decode image

def KeptByInit (k : ConfigT) (found r : Info) : Prop :=
  (k ≠ .avcSwitchState → r.avcRelayState = 0) ∧ (k ≠ .timeoutExec → r.timeoutExec = 0) ∧
    (k ≠ .timeoutCmd → r.timeoutCmd = 0) ∧
    (k ≠ .addr → r.addr = if found.addr ≠ 0 then found.addr else 1) ∧
    (k ≠ .sn → r.sn = if found.sn ≠ 0 then found.sn else 1) ∧
    (k ≠ .deviceType → r.devType = if found.devType.toNat < 5 then found.devType else 0)

instance (k : ConfigT) (found r : Info) : Decidable (KeptByInit k found r) :=
  inferInstanceAs (Decidable (_ ∧ _ ∧ _ ∧ _ ∧ _ ∧ _))

lemma keptByInit_iff (k : ConfigT) (found r : Info) : KeptByInit k found r ↔
    Info.fields.AgreeOff k (found.initialised ⟨0, 0, 0, 0, 0, 0⟩) r := by
  constructor
  · rintro ⟨hrelay, hexec, hcmd, haddr, hs, htype⟩ j hj
    cases j with
    | deviceType => exact (htype hj.symm).symm
    | addr => exact (haddr hj.symm).symm
    | sn => exact (congrArg (BitVec.setWidth 32) (hs hj.symm)).symm
    | timeoutExec => exact (hexec hj.symm).symm
    | timeoutCmd => exact (hcmd hj.symm).symm
    | avcSwitchState => exact (hrelay hj.symm).symm
  · intro h
    refine ⟨fun hk => (h .avcSwitchState hk.symm).symm, fun hk => (h .timeoutExec hk.symm).symm,
      fun hk => (h .timeoutCmd hk.symm).symm, fun hk => (h .addr hk.symm).symm,
      fun hk => (setWidth_sn_inj.mp (h .sn hk.symm)).symm,
      fun hk => (h .deviceType hk.symm).symm⟩

lemma configInit_run (b : Board D) (w : World D) :
    ((configInit b).run w.cleared).2.cache = (initRead b w).initialised ⟨0, 0, 0, 0, 0, 0⟩ ∧
      ((configInit b).run w.cleared).2.dev = (b.at24cxx.read w.dev).2 := by
  rcases hr : b.at24cxx.read w.dev with ⟨_ | image, d⟩ <;>
    simp [configInit, World.cleared, initRead, hr]

def initialisedWorld (b : Board D) (w : World D) : World D := ((configInit b).run w.cleared).2

section Starts

variable {b : Board D} {content : D → Image} (h : b.at24cxx.Faulty content)
include h

lemma initialised_of_failed {w : World D} {pre : List ConfigCall}
    (hpre : Enabled (configStep b) (fun c w => ¬ Succeeds b c w) pre (initialisedWorld b w)) :
    (run (configStep b) pre (initialisedWorld b w)).record content = w.record content ∧
      (run (configStep b) pre (initialisedWorld b w)).cache =
        (initRead b w).initialised ⟨0, 0, 0, 0, 0, 0⟩ := by
  obtain ⟨hcache, hdev⟩ := configInit_run b w
  have hrecord : (initialisedWorld b w).record content = w.record content := by
    change Info.decode (content ((configInit b).run w.cleared).2.dev) = _
    rw [hdev, h.content_read]
    rfl
  refine hpre.invariant (I := fun w' => w'.record content = w.record content ∧
    w'.cache = (initRead b w).initialised ⟨0, 0, 0, 0, 0, 0⟩) (fun c w' hw' hc => ?_)
    ⟨hrecord, hcache⟩
  obtain ⟨hr, hk⟩ := step_of_not_succeeds h hc
  exact ⟨hr.trans hw'.1, hk.trans hw'.2⟩

lemma get_of_succeeds {w : World D} {k : ConfigT} {v x : k.Value} {mid : List ConfigCall}
    (hv : InRange k v) (hok : Succeeds b (.modify k v) w) (hmid : ∀ u, .modify k u ∉ mid)
    (hx : ((configGet b k).run (run (configStep b) mid (configStep b (.modify k v) w))).1 = some x) :
    x = v := by
  have hread : ((configStep b (.modify k v) w).record content).get k = v := by
    rw [(modify_record h hok).1]
    exact fits_of_inRange hv _
  have hend := run_invariant (I := fun w => w.Synced content ∧ (w.record content).get k = v)
    (fun c hc w hw => ⟨step_synced h c w hw.1,
      (step_get_of_ne h (fun u hu => hmid u (hu ▸ hc)) hw.1).trans hw.2⟩)
    ⟨step_synced_of_succeeds h _ _ hok, hread⟩
  rw [get_value h hx]
  exact hend.2

end Starts

/-- A run of calls after a start writes only the fields it should exactly when every write that
succeeds before any other call has succeeded finds the other fields as `config_init` left them. -/
theorem writes_own_field_iff (b : Board D) (content : D → Image) (w : World D)
    (calls : List ConfigCall) (h : b.at24cxx.Faulty content) :
    WritesOwnField b content calls (initialisedWorld b w) ↔
      ∀ pre k v, pre ++ [.modify k v] <+: calls → InRange k v →
        Enabled (configStep b) (fun c w => ¬ Succeeds b c w) pre (initialisedWorld b w) →
        Succeeds b (.modify k v) (run (configStep b) pre (initialisedWorld b w)) →
        KeptByInit k (initRead b w) (w.record content) := by
  constructor
  · intro hwrites pre k v hpre hv hfail hok
    have hframe := hwrites.frame pre k v hpre hv hok
    obtain ⟨hr, hc⟩ := initialised_of_failed h hfail
    rw [run_append, run_cons, run_nil, (modify_record h hok).1, hr, hc] at hframe
    rw [keptByInit_iff, ← Fields.agreeOff_set_iff k v]
    exact hframe
  · intro hkept
    refine ⟨fun pre k v hpre hv hok => ?_, fun pre k v mid x hpre hv hok hmid hx => ?_, ?_⟩
    · rw [run_append, run_cons, run_nil, (modify_record h hok).1]
      have hagree : Info.fields.AgreeOff k (run (configStep b) pre (initialisedWorld b w)).cache
          ((run (configStep b) pre (initialisedWorld b w)).record content) := by
        rcases enabled_not_or (step_synced_of_succeeds h) (step_synced h) pre
          (initialisedWorld b w) with hfail | hsync
        · obtain ⟨hr, hc⟩ := initialised_of_failed h hfail
          rw [hr, hc, ← keptByInit_iff]
          exact hkept pre k v hpre hv hfail hok
        · rw [hsync]
          exact fun _ _ => rfl
      exact (Fields.agreeOff_set_iff k v _ _).mpr hagree
    · rw [run_append, run_cons] at hx
      exact get_of_succeeds h hv hok hmid hx
    · intro pre k v _ hfail
      rw [run_append]
      exact step_of_not_succeeds h hfail

def flakyBoard : Board (Image × List Bool) := benchOn (Device.flaky Image) followingRelay

theorem writes_own_field_kept : WritesOwnField flakyBoard Prod.fst
    [.get .addr, .modify .addr 7, .get .addr]
    (initialisedWorld flakyBoard (poweredOn (Info.encode ⟨0, 4, 0, 0, 1, 1⟩, [true, false]))) :=
  (writes_own_field_iff _ _ _ _ Device.flaky_faulty).mpr fun _ k _ _ _ _ _ => by
    cases k <;> decide

theorem writes_own_field_fails :
    ¬ ∀ (b : Board (Image × List Bool)) (content : Image × List Bool → Image)
      (w : World (Image × List Bool)) (calls : List ConfigCall), b.at24cxx.Faulty content →
      WritesOwnField b content calls (initialisedWorld b w) := by
  intro h
  have hframe := (h flakyBoard Prod.fst
    (poweredOn (Info.encode ⟨1, 4, 5, 5, 1, 1⟩, [true, false, false, false]))
    [.get .addr, .get .sn, .get .deviceType, .modify .addr 7] Device.flaky_faulty).frame
    [.get .addr, .get .sn, .get .deviceType] .addr 7 List.prefix_rfl trivial (by decide)
    .timeoutExec (by decide)
  exact absurd hframe (by decide)

end YkLock
