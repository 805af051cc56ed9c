import YkLock.Proofs.DeviceSteps
import YkLock.Proofs.HandlerRules
import YkLock.Library.Runs

/-! The configuration and its commands when EEPROM reads succeed and any write may fail. -/

namespace YkLock

open Library.Storage Library.StatePrograms Library.Runs Library.Records

variable {D : Type}

def Info.follows (r : Info) (type : LockType) : List ConfigWrite :=
  if LockType.sanitised r.devType ≠ type then [⟨.deviceType, type.toByte⟩] else []

def HandlerIndex.tries (i : HandlerIndex) (d : Buffer) (r : Info) (first : Bool) :
    List ConfigWrite :=
  match i with
  | .ykProductionModifySn => ⟨.sn, (d.sn 6).setWidth 32⟩ :: r.follows .ykLock
  | .avcModifySn => ⟨.sn, (d.sn 6).setWidth 32⟩ :: r.follows .avcSwitch
  | .avcModifyAddrType =>
    if d.sn 3 = r.sn then
      ⟨.deviceType, d.get 1⟩ :: (if first = true then [⟨.addr, d.get 2⟩] else [])
    else []
  | .coldLockModifyTimeout => [⟨.timeoutExec, d.get 5⟩, ⟨.timeoutCmd, d.get 6⟩]
  | _ => []

def resultByte (reply : List Byte) : Byte := reply.getD (reply.length - 2) 0

structure Mirrors (b : Board D) (content : D → Image) (pattern : D → ℕ → Bool) (r : Info)
    (o : ℕ → Bool) (sent : List (List Byte)) (w : World D) : Prop where
  record : w.record content = r
  cache : w.cache = r
  info : w.info = r.lockInfo b
  outcomes : pattern w.dev = o
  sent : w.sent = sent

section Steps

variable {b : Board D} {content : D → Image} {pattern : D → ℕ → Bool} {r : Info} {o : ℕ → Bool}
  {sent : List (List Byte)}

lemma at_mirrors (d : Buffer) (i : ℕ) : Returns (Mirrors b content pattern r o sent) (d.at i)
    (d.get i) (Mirrors b content pattern r o sent) :=
  fun _ ⟨h1, h2, h3, h4, h5⟩ => ⟨rfl, h1, h2, h3, h4, h5⟩

lemma snAt_mirrors (d : Buffer) (i : ℕ) : Returns (Mirrors b content pattern r o sent) (d.snAt i)
    ((d.sn i).setWidth 32) (Mirrors b content pattern r o sent) :=
  fun w ⟨h1, h2, h3, h4, h5⟩ => ⟨d.snAt_val i w, h1, h2, h3, h4, h5⟩

lemma reply_mirrors (reply : List Byte) : Triple (Mirrors b content pattern r o sent)
    (channelWrite reply >>= fun _ => pure RtErr.eok)
    fun _ => Mirrors b content pattern r o (reply :: sent) :=
  fun _ ⟨h1, h2, h3, h4, h5⟩ => ⟨h1, h2, h3, h4, congrArg _ h5⟩

variable (h : b.at24cxx.Failing content pattern)
include h

lemma getConfig_mirrors (k : ConfigT) : Returns (Mirrors b content pattern r o sent) (getConfig b k)
    (r.get k) (Mirrors b content pattern r o sent) := by
  intro w hw
  rw [getConfig_synced h.read k (hw.cache.trans hw.record.symm), hw.cache]
  exact ⟨rfl, hw⟩

lemma getSn_mirrors : Returns (Mirrors b content pattern r o sent) (getSn b) (r.sn.setWidth 32)
    (Mirrors b content pattern r o sent) := getConfig_mirrors h .sn

lemma getDevice_mirrors : Returns (Mirrors b content pattern r o sent) (getDevice b)
    (.sanitised r.devType) (Mirrors b content pattern r o sent) :=
  (getConfig_mirrors h .deviceType).bind (Triple.pure fun _ hw => ⟨rfl, hw⟩)

lemma configModify_mirrors (k : ConfigT) (v : k.Value) :
    Returns (Mirrors b content pattern r o sent) (configModify b k v)
      (if o 0 = true then .eok else .error)
      (Mirrors b content pattern (Info.fields.attempt [⟨k, v⟩] o r) (fun n => o (n + 1)) sent) := by
  intro w hw
  have hwrite : (b.at24cxx.write w.dev (w.cache.set k v).encode).1 = o 0 := by
    rw [h.write, hw.outcomes]
  have hcontent : content (b.at24cxx.write w.dev (w.cache.set k v).encode).2 =
      if o 0 = true then (w.cache.set k v).encode else content w.dev := by
    rw [h.content_write, hw.outcomes]
  have hpattern : pattern (b.at24cxx.write w.dev (w.cache.set k v).encode).2 = fun n => o (n + 1) := by
    funext n
    rw [h.pattern_write, hw.outcomes]
  by_cases ho : o 0 = true
  · rw [if_pos ho] at hcontent
    rw [configModify_of_ok h.read (hwrite.trans ho) hcontent, if_pos ho, Fields.attempt, if_pos ho]
    have hset : (w.stored b (w.cache.set k v)).record content = r.set k v := by
      rw [World.record, World.stored, hcontent, Info.decode_encode, hw.cache]
    have hcache : w.cache.set k v = r.set k v := by rw [hw.cache]
    exact ⟨rfl, hset, hcache, congrArg (Info.lockInfo b) hcache, hpattern, hw.sent⟩
  · rw [if_neg ho] at hcontent
    rw [configModify_of_fail (hwrite.trans (Bool.eq_false_of_not_eq_true ho)), if_neg ho,
      Fields.attempt, if_neg ho]
    exact ⟨rfl, (congrArg Info.decode hcontent).trans hw.record, hw.cache, hw.info, hpattern, hw.sent⟩

lemma followDevice_mirrors (type : LockType) : Triple (Mirrors b content pattern r o sent)
    (followDevice b type) fun _ => Mirrors b content pattern (Info.fields.attempt (r.follows type) o r)
      (fun n => o (n + (r.follows type).length)) sent := by
  intro w hw
  have hinfo : w.info = r.lockInfo b := hw.info
  rw [followDevice, run_bind, run_get, run_ite, Info.follows]
  by_cases ht : LockType.sanitised r.devType ≠ type
  · rw [if_pos ht, if_pos (by rw [hinfo]; exact ⟨rfl, ht⟩)]
    exact (configModify_mirrors h .deviceType type.toByte w hw).2
  · rw [if_neg ht, if_neg (by rw [hinfo]; exact fun hh => ht hh.2)]
    exact hw

end Steps

section Handlers

variable {b : Board D} {content : D → Image} {pattern : D → ℕ → Bool} {r : Info} {o : ℕ → Bool}
  {sent : List (List Byte)}

def Tried (b : Board D) (content : D → Image) (pattern : D → ℕ → Bool) (r : Info) (o : ℕ → Bool)
    (sent : List (List Byte)) (tries : List ConfigWrite) (answers : Byte → Prop) (w : World D) : Prop :=
  ∃ reply, Mirrors b content pattern (Info.fields.attempt tries o r) (fun n => o (n + tries.length))
    (reply :: sent) w ∧ answers (resultByte reply)

lemma reply_tried (tries : List ConfigWrite) {answers : Byte → Prop} {reply : List Byte}
    (hreply : answers (resultByte reply)) : Triple (Mirrors b content pattern
      (Info.fields.attempt tries o r) (fun n => o (n + tries.length)) sent)
    (channelWrite reply >>= fun _ => pure RtErr.eok)
    fun _ => Tried b content pattern r o sent tries answers :=
  (reply_mirrors reply).mono fun _ _ hw => ⟨reply, hw, hreply⟩

lemma follows_attempt_sn (v : ConfigT.Value .sn) (type : LockType) :
    (Info.fields.attempt [⟨.sn, v⟩] o r).follows type = r.follows type := by
  rw [Info.follows, Info.follows, Fields.attempt, Fields.attempt]
  split <;> rfl

variable (h : b.at24cxx.Failing content pattern)
include h

lemma sn_follow_mirrors (v : ConfigT.Value .sn) (type : LockType) {α : Type} {f : RtErr → Fw D α}
    {Q : α → World D → Prop} (hf : Triple (Mirrors b content pattern
      (Info.fields.attempt (⟨.sn, v⟩ :: r.follows type) o r)
      (fun n => o (n + (⟨.sn, v⟩ :: r.follows type : List ConfigWrite).length)) sent)
      (f (if o 0 = true then .eok else .error)) Q) :
    Triple (Mirrors b content pattern r o sent)
      (modifySn b v >>= fun result => followDevice b type >>= fun _ => f result) Q := by
  refine (configModify_mirrors h .sn v).bind ((followDevice_mirrors h type).bind fun _ => ?_)
  rw [follows_attempt_sn]
  exact hf

lemma funcYkProductionModifySn_tried (d : Buffer) : Triple (Mirrors b content pattern r o sent)
    (funcYkProductionModifySn b d) fun _ => Tried b content pattern r o sent
      (HandlerIndex.tries .ykProductionModifySn d r (o 0)) fun _ => True :=
  (snAt_mirrors d 6).bind
    (sn_follow_mirrors h _ _ ((getConfig_mirrors h .sn).bind (reply_tried _ trivial)))

lemma funcAvcModifySn_tried (d : Buffer) : Triple (Mirrors b content pattern r o sent)
    (funcAvcModifySn b d) fun _ => Tried b content pattern r o sent
      (HandlerIndex.tries .avcModifySn d r (o 0)) fun x => x = 0x10 ↔ o 0 = true := by
  refine (snAt_mirrors d 6).bind (sn_follow_mirrors h _ _ ((getConfig_mirrors h .addr).bind ?_))
  refine (getConfig_mirrors h .sn).bind (reply_tried _ ?_)
  cases o 0 with
  | true => exact iff_of_true rfl rfl
  | false => exact iff_of_false nofun nofun

lemma funcColdLockModifyTimeout_tried (d : Buffer) : Triple (Mirrors b content pattern r o sent)
    (funcColdLockModifyTimeout b d) fun _ => Tried b content pattern r o sent
      (HandlerIndex.tries .coldLockModifyTimeout d r (o 0)) fun _ => True := by
  refine (getConfig_mirrors h .timeoutExec).bind ((getConfig_mirrors h .timeoutCmd).bind ?_)
  refine (at_mirrors d 5).bind ((configModify_mirrors h .timeoutExec _).bind ?_)
  refine (at_mirrors d 6).bind ((configModify_mirrors h .timeoutCmd _).bind ?_)
  refine (getConfig_mirrors h .timeoutExec).bind ((getConfig_mirrors h .timeoutCmd).bind ?_)
  exact (getConfig_mirrors h .addr).bind
    (reply_tried [⟨.timeoutExec, d.get 5⟩, ⟨.timeoutCmd, d.get 6⟩] trivial)

lemma modifyDeviceAndAddr_mirrors (type addr : Byte) {tries : List ConfigWrite}
    (ht : tries = ⟨.deviceType, type⟩ :: if o 0 = true then [⟨.addr, addr⟩] else []) :
    Returns (Mirrors b content pattern r o sent) (modifyDeviceAndAddr b type addr)
      (if o 0 = true then if o 1 = true then .eok else .error else .error) (Mirrors b content pattern
        (Info.fields.attempt tries o r) (fun n => o (n + tries.length)) sent) := by
  refine (configModify_mirrors h .deviceType type).bind ?_
  by_cases h0 : o 0 = true
  · rw [if_pos h0] at ht
    rw [if_pos h0, if_pos rfl, if_pos h0, ht]
    exact configModify_mirrors h .addr addr
  · rw [if_neg h0] at ht
    rw [if_neg h0, if_neg nofun, if_neg h0, ht]
    exact Triple.pure fun _ hw => ⟨rfl, hw⟩

lemma funcAvcModifyDevice_tried (d : Buffer) : Triple (Mirrors b content pattern r o sent)
    (funcAvcModifyDevice b d) fun _ => Tried b content pattern r o sent
      (HandlerIndex.tries .avcModifyAddrType d r (o 0))
      fun x => x = 0x10 ↔ d.sn 3 = r.sn ∧ o 0 = true ∧ o 1 = true := by
  refine (at_mirrors d 1).bind ((at_mirrors d 2).bind ((snAt_mirrors d 3).bind ?_))
  refine (getSn_mirrors h).bind ?_
  have hreply (result : RtErr) (tries : List ConfigWrite) (hresult : result = .eok ↔
      d.sn 3 = r.sn ∧ o 0 = true ∧ o 1 = true) : Triple (Mirrors b content pattern
        (Info.fields.attempt tries o r) (fun n => o (n + tries.length)) sent) (do
      let device ← getDevice b
      let addr ← getAddr b
      channelWrite (withCrc
        [0, 0, 0, 0x04, 0x33, device.toByte, addr, if result = .eok then 0x10 else 0x01])
      return RtErr.eok) fun _ => Tried b content pattern r o sent tries
        fun x => x = 0x10 ↔ d.sn 3 = r.sn ∧ o 0 = true ∧ o 1 = true := by
    refine (getDevice_mirrors h).bind ((getConfig_mirrors h .addr).bind (reply_tried tries ?_))
    rw [← hresult]
    cases result with
    | eok => exact iff_of_true rfl rfl
    | error => exact iff_of_false nofun nofun
  by_cases hsn : d.sn 3 = r.sn
  · have htries : HandlerIndex.tries .avcModifyAddrType d r (o 0) =
        ⟨.deviceType, d.get 1⟩ :: if o 0 = true then [⟨.addr, d.get 2⟩] else [] := if_pos hsn
    rw [if_pos (setWidth_sn_inj.mpr hsn)]
    refine (modifyDeviceAndAddr_mirrors h _ _ htries).bind (hreply _ _ ?_)
    rw [and_iff_right hsn]
    cases o 0 <;> cases o 1 <;> decide
  · have htries : HandlerIndex.tries .avcModifyAddrType d r (o 0) = [] := if_neg hsn
    rw [if_neg (mt setWidth_sn_inj.mp hsn), htries]
    refine Returns.bind (Triple.pure fun w hw => ⟨rfl, hw⟩) (hreply .error [] ?_)
    exact iff_of_false nofun fun hh => hsn hh.1

end Handlers

def HandlerIndex.MultiWrite (i : HandlerIndex) : Prop :=
  i = .avcModifyAddrType ∨ i = .avcModifySn ∨ i = .ykProductionModifySn ∨ i = .coldLockModifyTimeout

def HandlerIndex.Answers (i : HandlerIndex) (d : Buffer) (r : Info) (o : ℕ → Bool) (x : Byte) : Prop :=
  match i with
  | .avcModifyAddrType => x = 0x10 ↔ d.sn 3 = r.sn ∧ o 0 = true ∧ o 1 = true
  | .avcModifySn => x = 0x10 ↔ o 0 = true
  | _ => True

lemma protocolHandler_tried {b : Board D} {content : D → Image} {pattern : D → ℕ → Bool} {r : Info}
    {o : ℕ → Bool} {sent : List (List Byte)} (h : b.at24cxx.Failing content pattern)
    {i : HandlerIndex} (hi : i.MultiWrite) (d : Buffer) : Triple (Mirrors b content pattern r o sent)
      (protocolHandler b ⟨i, d⟩) fun _ =>
        Tried b content pattern r o sent (i.tries d r (o 0)) (i.Answers d r o) := by
  rcases hi with rfl | rfl | rfl | rfl
  · exact funcAvcModifyDevice_tried h d
  · exact funcAvcModifySn_tried h d
  · exact funcYkProductionModifySn_tried h d
  · exact funcColdLockModifyTimeout_tried h d

section Reachable

variable {b : Board D} {content : D → Image} {pattern : D → ℕ → Bool} {w : World D}

def Mirrored (b : Board D) (content : D → Image) (w : World D) : Prop :=
  w.Synced content ∧ w.info = (w.record content).lockInfo b

lemma Mirrors.mirrored {r : Info} {o : ℕ → Bool} {sent : List (List Byte)}
    (hw : Mirrors b content pattern r o sent w) : Mirrored b content w :=
  ⟨hw.cache.trans hw.record.symm, hw.record ▸ hw.info⟩

lemma Mirrored.mirrors (hw : Mirrored b content w) :
    Mirrors b content pattern (w.record content) (pattern w.dev) w.sent w :=
  ⟨rfl, hw.1, hw.2, rfl, rfl⟩

def KeepsMirrored (b : Board D) (content : D → Image) (w w' : World D) : Prop :=
  Mirrored b content w → Mirrored b content w'

instance : Std.Refl (KeepsMirrored b content) := ⟨fun _ h => h⟩

instance : IsTrans (World D) (KeepsMirrored b content) := ⟨fun _ _ _ h h' hw => h' (h hw)⟩

lemma mirrored_commands (h : b.at24cxx.Failing content pattern) :
    Commands b (KeepsMirrored b content) fun _ => True where
  get k w hw := by
    rw [configGet_readable h.read, loaded_of_synced hw.1]
    exact hw
  modify c _ w hw := (configModify_mirrors h c.1 c.2 w hw.mirrors).2.mirrored
  pinRead _ _ _ h := h
  delay _ _ h := h
  avcState _ _ h := h
  pinWrite _ _ _ h := h
  reads _ _ h := h
  reset _ h := h
  reply _ _ _ h := h

lemma boot_mirrored (h : b.at24cxx.Failing content pattern) (w : World D) :
    Mirrored b content (boot b w) := by
  obtain ⟨pins, hboot⟩ := boot_run (startInfo_readable h.read w)
  rw [hboot]
  exact ⟨rfl, rfl⟩

lemma run_mirrored (h : b.at24cxx.Failing content pattern) (as : List Event) (w : World D) :
    Mirrored b content (run (event b) as (boot b w)) :=
  run_invariant (fun e _ w hw => event_moves (mirrored_commands h).handles
    (fun w _ => boot_mirrored h w) e w hw) (boot_mirrored h w)

end Reachable

end YkLock
