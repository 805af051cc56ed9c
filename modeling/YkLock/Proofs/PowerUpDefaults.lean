import YkLock.Proofs.RegisterMachine

/-! Whether the address and SN chosen at power-up are the ones in use afterwards. -/

namespace YkLock

open Library.Storage Library.StatePrograms Library.Runs

variable {D : Type}

def QueryCode (funcCode : Byte) : Prop :=
  funcCode = 0x01 ∨ funcCode = 0x04 ∨ funcCode = 0x31 ∨ funcCode = 0x3F ∨ funcCode = 0x21 ∨
    funcCode = 0x2F

instance (funcCode : Byte) : Decidable (QueryCode funcCode) := inferInstanceAs (Decidable (_ ∨ _))

inductive Query
  | get (k : ConfigT)
  | frame (d : Buffer) (hd : QueryCode (d.get 4))

def query (b : Board D) (q : Query) (w : World D) : World D :=
  match q with
  | .get k => ((configGet b k).run w).2
  | .frame d _ => deliver b d w

def World.selected (b : Board D) (w : World D) : Info := ((configInit b).run w.cleared).2.cache

structure Reports (b : Board D) (selected : Info) (w : World D) : Prop where
  getAddr : ((configGet b .addr).run w).1 = some selected.addr
  getSn : ((configGet b .sn).run w).1 = some (selected.sn.setWidth 32)
  addr : w.info.addr = selected.addr
  sn : w.info.sn = selected.sn.setWidth 32
  filter : w.filter = mainFilter b { w.info with addr := selected.addr }

def Untouched (b : Board D) (content : D → Image) (r : Info) (w : World D) : Prop :=
  ∃ sent, Shows b content (View.boot b ⟨r, [], false, [], sent, false⟩) w

lemma command_query {i : HandlerIndex} (d : Buffer) (r : Info) (hi : QueryCode i.funcCode) :
    r.command i d = r ∧ i ≠ .ykModifyAddr := by
  cases i with
  | ykQueryState | ykReportState | avcQueryState | avcProductionQuery | coldLockQueryAll
  | coldLockProductionQuery => exact ⟨rfl, nofun⟩
  | _ => exact absurd hi (by decide)

section Runs

variable {b : Board D} {content : D → Image} {r : Info} {w : World D}

lemma frame_untouched (h : b.at24cxx.Reliable content) {d : Buffer} (hd : QueryCode (d.get 4))
    (hw : Untouched b content r w) : Untouched b content r (deliver b d w) := by
  obtain ⟨sent, hv⟩ := hw
  by_cases hacc : w.installed = true → accepted w d = none
  · obtain ⟨indices, hrun⟩ := rxCb_run_of_refused (b := b) hacc
    obtain ⟨h1, h2, h3, h4, h5, h6, h7, h8⟩ := hv
    have hreset : w.reset = false := h8
    refine ⟨sent, ?_⟩
    rw [deliver, hrun, afterReset, if_neg (by simp [hreset])]
    exact ⟨h1, h2, h3, h4, h5, h6, h7, h8⟩
  · obtain ⟨hinst, hsome⟩ := Classical.not_imp.mp hacc
    obtain ⟨i, hi⟩ := Option.ne_none_iff_exists'.mp hsome
    rw [accepted_eq, hv.info, hv.set] at hi
    have hcode : d.get 4 = i.funcCode :=
      funcCode_eq ((lookup_eq_some_iff _ _).mp (parse_eq_some_iff.mp hi).2)
    obtain ⟨hr, hne⟩ := command_query d r (hcode ▸ hd)
    obtain ⟨s, s', hs⟩ := deliver_shows h hv (hv.installed.symm.trans hinst) hi
    rw [View.deliver_of_keep hne hr rfl] at hs
    exact ⟨replies i d r r s s' ++ sent, hs⟩

lemma query_untouched (h : b.at24cxx.Reliable content) (q : Query) (hw : Untouched b content r w) :
    Untouched b content r (query b q w) := by
  cases q with
  | get k =>
    obtain ⟨sent, hv⟩ := hw
    refine ⟨sent, ?_⟩
    rw [query, configGet_readable h.read, loaded_of_synced (shows_config w hv)]
    exact hv
  | frame d hd => exact frame_untouched h hd hw

lemma boot_untouched (h : b.at24cxx.Reliable content) (w : World D) :
    Untouched b content (w.record content) (boot b w) :=
  ⟨w.sent, boot_shows h rfl rfl⟩

lemma untouched_reports_iff (h : b.at24cxx.Reliable content) (hw : Untouched b content r w)
    (selected : Info) :
    Reports b selected w ↔ r.addr = selected.addr ∧ r.sn = selected.sn := by
  obtain ⟨sent, hv⟩ := hw
  have hrecord : w.record content = r := hv.record
  have hinfo : w.info = r.lockInfo b := hv.info
  constructor
  · rintro ⟨-, -, haddr, hsn, -⟩
    rw [hinfo] at haddr hsn
    exact ⟨haddr, setWidth_sn_inj.mp hsn⟩
  · rintro ⟨haddr, hsn⟩
    have hget (k : ConfigT) : ((configGet b k).run w).1 = some (r.get k) := by
      rw [configGet_readable h.read, hrecord]
    refine ⟨(hget .addr).trans (congrArg some haddr), ?_, ?_, ?_, ?_⟩
    · rw [hget, ← hsn]
      rfl
    · rw [hinfo]
      exact haddr
    · rw [hinfo, ← hsn]
      rfl
    · rw [hv.filter, hinfo, ← haddr]
      rfl

lemma selected_eq (h : b.at24cxx.Reliable content) (w : World D) :
    (w.selected b).addr =
        (if (w.record content).addr ≠ 0 then (w.record content).addr else 0x01) ∧
      (w.selected b).sn =
        (if (w.record content).sn ≠ 0 then (w.record content).sn else 0x000001) := by
  rw [World.selected, configInit_readable h.read]
  exact ⟨rfl, rfl⟩

end Runs

lemma eq_default_iff {n : ℕ} {x y : BitVec n} (hy : y ≠ 0) : x = (if x ≠ 0 then x else y) ↔ x ≠ 0 := by
  by_cases hx : x ≠ 0
  · rw [if_pos hx]
    exact iff_of_true rfl hx
  · rw [if_neg hx, not_not.mp hx]
    exact iff_of_false hy.symm (not_not.mpr rfl)

theorem power_up_defaults_iff (b : Board D) (content : D → Image) (w : World D) (qs : List Query)
    (h : b.at24cxx.Reliable content) :
    (∀ pre, pre <+: qs → Reports b (w.selected b) (run (query b) pre (boot b w))) ↔
      (w.record content).addr ≠ 0 ∧ (w.record content).sn ≠ 0 := by
  obtain ⟨haddr, hsn⟩ := selected_eq h w
  have hrun (pre : List Query) : Untouched b content (w.record content)
      (run (query b) pre (boot b w)) :=
    run_invariant (fun q _ _ hw => query_untouched h q hw) (boot_untouched h w)
  have hall (pre : List Query) : Reports b (w.selected b) (run (query b) pre (boot b w)) ↔
      (w.record content).addr ≠ 0 ∧ (w.record content).sn ≠ 0 := by
    rw [untouched_reports_iff h (hrun pre), haddr, hsn, eq_default_iff (by decide),
      eq_default_iff (by decide)]
  constructor
  · exact fun hp => (hall []).mp (hp [] List.nil_prefix)
  · exact fun hp pre _ => (hall pre).mpr hp

theorem power_up_defaults_stored :
    Reports (bench followingRelay) ((powered ⟨0, 0, 5, 5, 0xD6, 1⟩).selected (bench followingRelay))
      (run (query (bench followingRelay))
        [.get .addr, .frame ⟨withCrc [0x03, 0x00, 0xD6, 0x01, 0x01], fun _ => 0⟩ (by decide)]
        (boot (bench followingRelay) (powered ⟨0, 0, 5, 5, 0xD6, 1⟩))) :=
  (power_up_defaults_iff _ id _ _ (bench_reliable _)).mpr (by decide) _ List.prefix_rfl

theorem power_up_defaults_fail : ¬ ∀ w : World Image,
    Reports (bench followingRelay) (w.selected (bench followingRelay))
      (boot (bench followingRelay) w) := by
  intro h
  exact absurd (h (powered ⟨0, 0, 5, 5, 0, 1⟩)).getAddr (by decide)

end YkLock
