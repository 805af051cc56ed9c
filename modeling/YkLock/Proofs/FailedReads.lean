import YkLock.Proofs.ReplyFields

/-! What a failed EEPROM read puts into the lock's identity and into the replies. -/

namespace YkLock

open Library.StatePrograms Library.Storage

variable {D : Type}

def ReadOr (b : Board D) (k : ConfigT) (good : k.Value → Prop) (w : World D) : Prop :=
  (∃ image, (b.at24cxx.read w.dev).1 = some image) ∨
    good (b.stack (b.at24cxx.read w.dev).2 k.width)

structure InfoGenuine (content : D → Image) (w w' : World D) : Prop where
  addr : w'.info.addr = w.info.addr ∨ w'.info.addr = (w'.record content).addr
  sn : w'.info.sn = w.info.sn ∨ w'.info.sn = (w'.record content).sn.setWidth 32
  lockType : w'.info.lockType = w.info.lockType ∨
    w'.info.lockType = .sanitised (w'.record content).devType

/-- Each of the three reads of `lock_info_update` succeeds, or its local happens to hold the
previous or the stored value. -/
structure InfoReads (b : Board D) (content : D → Image) (w : World D) : Prop where
  addr : ReadOr b .addr (fun x => x = w.info.addr ∨ x = (w.record content).addr) w
  sn : ReadOr b .sn (fun x => x = w.info.sn ∨ x = (w.record content).sn.setWidth 32)
    (after (getAddr b) w)
  lockType : ReadOr b .deviceType (fun x => LockType.sanitised x = w.info.lockType ∨
      LockType.sanitised x = .sanitised (w.record content).devType)
    (after (getSn b) (after (getAddr b) w))

def Genuine (prior : LockInfo) (before stored : Info) : (k : ConfigT) → k.Value → Prop
  | .addr, x => x = prior.addr ∨ x = stored.addr
  | .sn, x => x = shown .sn prior.sn ∨ x = stored.sn.setWidth 32
  | .timeoutExec, x => x = before.timeoutExec ∨ x = stored.timeoutExec
  | .timeoutCmd, x => x = before.timeoutCmd ∨ x = stored.timeoutCmd
  | _, _ => True

def RepliesGenuine (b : Board D) (content : D → Image) (i : HandlerIndex) (d : Buffer)
    (w : World D) : Prop :=
  ∀ reply, (after (protocolHandler b ⟨i, d⟩) w).sent = reply :: w.sent → ∀ f ∈ i.replyFields,
    Genuine w.info (w.record content) ((after (protocolHandler b ⟨i, d⟩) w).record content) f.1
      (fieldAt reply f.2 f.1)

/-- Each read made for the reply succeeds or its local happens to hold the previous or the stored
value, and a frame whose SN the reply repeats has one of these two. -/
structure RepliesRead (b : Board D) (content : D → Image) (i : HandlerIndex) (d : Buffer)
    (w : World D) : Prop where
  getters : ∀ c ∈ i.getterCalls b d w, ReadOr b c.field (fun x => Genuine w.info
    (w.record content) ((after (protocolHandler b ⟨i, d⟩) w).record content) c.field
      (shown c.field x)) c.state
  repeated : i = .coldLockModifyAddr → d.sn 6 = w.info.sn.setWidth 24 ∨
    d.sn 6 = ((after (protocolHandler b ⟨i, d⟩) w).record content).sn

section Getters

variable {b : Board D} {content : D → Image}

lemma genuine_stored (prior : LockInfo) (before stored : Info) (k : ConfigT) :
    Genuine prior before stored k (shown k (stored.get k)) := by
  cases k with
  | sn => exact Or.inr (shown_sn stored.sn)
  | addr | timeoutExec | timeoutCmd => exact Or.inr rfl
  | deviceType | avcSwitchState => trivial

lemma genuine_before (prior : LockInfo) (before stored : Info) {k : ConfigT}
    (hk : k = .timeoutExec ∨ k = .timeoutCmd) : Genuine prior before stored k (shown k (before.get k)) := by
  rcases hk with rfl | rfl
  · exact Or.inl rfl
  · exact Or.inl rfl

variable (h : b.at24cxx.Faulty content)
include h

lemma readOr_iff (k : ConfigT) (good : k.Value → Prop) (w : World D)
    (hstored : good ((w.record content).get k)) :
    good ((getConfig b k).run w).1 ↔ ReadOr b k good w := by
  have hread := h.read_some w.dev
  rw [ReadOr, getConfig_run]
  rcases hr : b.at24cxx.read w.dev with ⟨_ | image, d⟩
  · rw [hr] at hread
    refine ⟨Or.inr, fun hok => ?_⟩
    rcases hok with ⟨image, himage⟩ | hgood
    · cases himage
    · exact hgood
  · rw [hr] at hread
    refine iff_of_true ?_ (Or.inl ⟨image, rfl⟩)
    have himage : image = content w.dev := hread image rfl
    rw [himage]
    exact hstored

lemma infoGenuine_iff (w : World D) :
    InfoGenuine content w (after (lockInfoUpdate b) w) ↔ InfoReads b content w := by
  let u : World D := after (getAddr b) w
  let v : World D := after (getSn b) u
  have hu : u.record content = w.record content := getConfig_record h .addr w
  have hv : v.record content = w.record content := (getConfig_record h .sn u).trans hu
  have hend : (after (lockInfoUpdate b) w).record content = w.record content :=
    (getConfig_record h .deviceType v).trans hv
  have haddr := readOr_iff h .addr (fun x => x = w.info.addr ∨ x = (w.record content).addr) w
    (Or.inr rfl)
  have hsn := readOr_iff h .sn (fun x => x = w.info.sn ∨ x = (w.record content).sn.setWidth 32) u
    (Or.inr (by rw [hu]; rfl))
  have htype := readOr_iff h .deviceType (fun x => LockType.sanitised x = w.info.lockType ∨
    LockType.sanitised x = .sanitised (w.record content).devType) v (Or.inr (by rw [hv]; rfl))
  constructor
  · rintro ⟨h1, h2, h3⟩
    rw [hend] at h1 h2 h3
    exact ⟨haddr.mp h1, hsn.mp h2, htype.mp h3⟩
  · rintro ⟨h1, h2, h3⟩
    constructor
    · rw [hend]
      exact haddr.mpr h1
    · rw [hend]
      exact hsn.mpr h2
    · rw [hend]
      exact htype.mpr h3

lemma ShowsCall.genuine_iff {reply : List Byte} {before stored : Info}
    {c : GetterCall D} (hc : ShowsCall b content reply before stored c) (prior : LockInfo) :
    Genuine prior before stored c.field (fieldAt reply c.position c.field) ↔
      ReadOr b c.field (fun x => Genuine prior before stored c.field (shown c.field x)) c.state := by
  rw [hc.value]
  refine readOr_iff h c.field (fun x => Genuine prior before stored c.field (shown c.field x)) _ ?_
  rcases hc.record with hr | ⟨hk, hr⟩
  · rw [hr]
    exact genuine_stored _ _ _ _
  · rw [hr]
    exact genuine_before _ _ _ hk

end Getters

section Replies

variable {b : Board D} {content : D → Image}

def FieldsGenuine (content : D → Image) (fields : List (ConfigT × ℕ)) (w w' : World D) : Prop :=
  ∀ reply, w'.sent = reply :: w.sent → ∀ f ∈ fields,
    Genuine w.info (w.record content) (w'.record content) f.1 (fieldAt reply f.2 f.1)

lemma fieldsGenuine_of_unsent (fields : List (ConfigT × ℕ)) {w w' : World D}
    (hsent : w'.sent = w.sent) : FieldsGenuine content fields w w' := by
  intro reply hreply
  exact absurd (hsent.symm.trans hreply) (List.cons_ne_self reply _).symm

variable (h : b.at24cxx.Faulty content) (d : Buffer) (w : World D)
include h

lemma fieldsGenuine_iff {calls : List (GetterCall D)} {w' : World D}
    (hanswered : ∃ reply, w'.sent = reply :: w.sent ∧
      ∀ c ∈ calls, ShowsCall b content reply (w.record content) (w'.record content) c) :
    FieldsGenuine content (calls.map fun c => (c.field, c.position)) w w' ↔
      ∀ c ∈ calls, ReadOr b c.field (fun x => Genuine w.info (w.record content)
        (w'.record content) c.field (shown c.field x)) c.state := by
  obtain ⟨reply, hsent, hshows⟩ := hanswered
  constructor
  · intro hfields c hc
    exact ((hshows c hc).genuine_iff h _).mp
      (hfields reply hsent _ (List.mem_map.mpr ⟨c, hc, rfl⟩))
  · intro hreads reply' hsent' f hf
    obtain rfl : reply = reply' := (List.cons.inj (hsent.symm.trans hsent')).1
    obtain ⟨c, hc, rfl⟩ := List.mem_map.mp hf
    exact ((hshows c hc).genuine_iff h _).mpr (hreads c hc)

lemma repliesGenuine_iff (i : HandlerIndex) :
    RepliesGenuine b content i d w ↔ RepliesRead b content i d w := by
  by_cases hi : i = .coldLockModifyAddr
  · subst hi
    let w' : World D := after (protocolHandler b ⟨.coldLockModifyAddr, d⟩) w
    obtain ⟨reply, hsent, hrepeated, hshows⟩ :=
      funcColdLockModifyAddr_answered h d (w.record content) w
    have hsent' : w'.sent = reply :: w.sent := hsent
    have hsn : Genuine w.info (w.record content) (w'.record content) .sn (fieldAt reply 6 .sn) ↔
        d.sn 6 = w.info.sn.setWidth 24 ∨ d.sn 6 = (w'.record content).sn := by
      rw [hrepeated]
      exact or_congr setWidth_sn_inj setWidth_sn_inj
    have haddr : FieldsGenuine content [(.addr, 5)] w w' ↔ _ :=
      fieldsGenuine_iff h w ⟨reply, hsent, hshows⟩
    constructor
    · intro hgenuine
      refine ⟨haddr.mp fun reply' hreply f hf => hgenuine reply' hreply f ?_, fun _ => ?_⟩
      · obtain rfl : f = (.addr, 5) := List.mem_singleton.mp hf
        exact List.mem_cons_self ..
      · exact hsn.mp (hgenuine reply hsent' _ (List.mem_cons_of_mem _ (List.mem_cons_self ..)))
    · rintro ⟨hgetters, hframe⟩ reply' hreply f hf
      rcases List.mem_cons.mp hf with rfl | hf
      · exact haddr.mpr hgetters reply' hreply _ (List.mem_cons_self ..)
      · obtain rfl : f = (.sn, 6) := List.mem_singleton.mp hf
        obtain rfl : reply = reply' := (List.cons.inj (hsent'.symm.trans hreply)).1
        exact hsn.mpr (hframe rfl)
  · rcases protocolHandler_answers h d w hi with ⟨hcalls, hsent⟩ | ⟨hfields, hanswered⟩
    · refine iff_of_true (fieldsGenuine_of_unsent _ hsent) ⟨?_, fun he => absurd he hi⟩
      rw [hcalls]
      exact fun c hc => (List.not_mem_nil hc).elim
    · have hiff := fieldsGenuine_iff h w hanswered
      rw [hfields] at hiff
      exact hiff.trans ⟨fun hread => ⟨hread, fun he => absurd he hi⟩, RepliesRead.getters⟩

end Replies

theorem identity_genuine_iff (b : Board D) (content : D → Image) (i : HandlerIndex) (d : Buffer)
    (w : World D) (h : b.at24cxx.Faulty content) :
    (InfoGenuine content w (after (lockInfoUpdate b) w) ↔ InfoReads b content w) ∧
      (RepliesGenuine b content i d w ↔ RepliesRead b content i d w) :=
  ⟨infoGenuine_iff h w, repliesGenuine_iff h d w i⟩

def startedFlaky (transfers : List Bool) : World (Image × List Bool) :=
  boot flakyBoard (poweredOn (Info.encode ⟨0, 0, 5, 5, 0xD6, 1⟩, [true, true, true, true] ++ transfers))

lemma readOr_flaky {k : ConfigT} {good : k.Value → Prop} {w : World (Image × List Bool)}
    (hw : w.dev.2.head? ≠ some false) : ReadOr flakyBoard k good w := by
  rcases hdev : w.dev with ⟨image, _ | ⟨_ | _, rest⟩⟩
  · exact Or.inl ⟨image, by rw [hdev]; rfl⟩
  · exact absurd (by rw [hdev]; rfl) hw
  · exact Or.inl ⟨image, by rw [hdev]; rfl⟩

theorem identity_genuine_started :
    InfoGenuine Prod.fst (startedFlaky [true, true, true])
        (after (lockInfoUpdate flakyBoard) (startedFlaky [true, true, true])) ∧
      RepliesGenuine flakyBoard Prod.fst .ykQueryState ⟨[], fun _ => 0⟩ (startedFlaky [true, true]) := by
  refine ⟨(identity_genuine_iff flakyBoard Prod.fst .ykQueryState ⟨[], fun _ => 0⟩ _
      Device.flaky_faulty).1.mpr ⟨?_, ?_, ?_⟩,
    (identity_genuine_iff flakyBoard Prod.fst .ykQueryState _ _ Device.flaky_faulty).2.mpr ⟨?_, ?_⟩⟩
  · exact readOr_flaky (by decide)
  · exact readOr_flaky (by decide)
  · exact readOr_flaky (by decide)
  · intro c hc
    rcases List.mem_cons.mp hc with rfl | hc
    · exact readOr_flaky (by decide)
    · obtain rfl := List.mem_singleton.mp hc
      exact readOr_flaky (by decide)
  · exact fun hi => by cases hi

theorem identity_not_genuine :
    ¬ ∀ (b : Board (Image × List Bool)) (content : Image × List Bool → Image) (i : HandlerIndex)
      (d : Buffer) (w : World (Image × List Bool)), b.at24cxx.Faulty content →
      InfoGenuine content w (after (lockInfoUpdate b) w) ∧ RepliesGenuine b content i d w := by
  intro h
  have haddr := (h flakyBoard Prod.fst .ykQueryState ⟨[], fun _ => 0⟩ (startedFlaky [false])
    Device.flaky_faulty).1.addr
  exact absurd haddr (by decide)

end YkLock
