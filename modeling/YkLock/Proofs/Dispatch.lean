import YkLock.Proofs.HandlerRules

/-! Dispatch by the function code, and the code the replies carry. -/

namespace YkLock

open Library.StatePrograms

variable {D : Type}

/-- The handlers, each with the function code that the comment over it in `handler.c` names. -/
def writtenHandlers (b : Board D) : List (Byte × (Buffer → Fw D RtErr)) := [
  (0x01, funcYkQueryState b), (0x02, funcYkControl b), (0x03, funcYkModifyAddr b),
  (0x04, funcYkReportState b), (0x07, funcYkProductionModifySn b),
  (0x31, funcAvcQueryState b), (0x35, funcAvcControlCommand b), (0x32, funcAvcControlRequest b),
  (0x33, funcAvcModifyDevice b), (0x37, funcAvcModifySn b), (0x3F, funcAvcProductionQuery b),
  (0x21, funcColdLockQueryAll b), (0x25, funcColdLockControl b),
  (0x2A, funcColdLockModifyTimeout b), (0x23, funcColdLockModifyAddr b),
  (0x27, funcColdLockModifySn), (0x2F, funcColdLockProductionQuery)]

def answerCode (f : Byte) : Byte := if f = 0x32 then 0x35 else f

structure DispatchAgrees (b : Board D) (w : World D) (d : Buffer) (i : HandlerIndex) : Prop where
  written : ∃ run, (d.get 4, run) ∈ writtenHandlers b ∧ protocolHandler b ⟨i, d⟩ = run d
  nodup : (w.set.map HandlerIndexTable.funcCode).Nodup
  replies : Sends (fun buff => buff.getD 4 0 = answerCode (d.get 4)) ((protocolParser d).run w).2
    ((protocolHandler b ⟨i, d⟩).run ((protocolParser d).run w).2).2

section Tables

lemma protocolHandler_written (b : Board D) (d : Buffer) (i : HandlerIndex) :
    ∃ run, (i.funcCode, run) ∈ writtenHandlers b ∧ protocolHandler b ⟨i, d⟩ = run d := by
  refine ⟨(handler b).getD i.ctorIdx fun _ => return .error, ?_, rfl⟩
  apply List.mem_of_getElem? (i := i.ctorIdx)
  cases i <;> rfl

lemma protocolSet_nodup (t : LockType) :
    (((protocolSet t).getD []).map HandlerIndexTable.funcCode).Nodup :=
  protocolSet_cases (P := fun set => (set.map HandlerIndexTable.funcCode).Nodup)
    (by decide) (by decide) (by decide) (by decide) t

lemma replyCode_eq {i : HandlerIndex} (hi : i.funcCode ≠ 0x3F) :
    i.replyCode = answerCode i.funcCode := by
  cases i with
  | avcProductionQuery => exact (hi rfl).elim
  | _ => rfl

lemma funcCode_of_accepted {w : World D} {d : Buffer} {t : LockType} {i : HandlerIndex}
    (hset : w.set = (protocolSet t).getD []) (hi : accepted w d = some i) :
    d.get 4 = i.funcCode := by
  rw [accepted_eq, hset, parse_eq_some_iff, lookup_eq_some_iff] at hi
  exact funcCode_eq hi.2

end Tables

lemma replyState_sent (b : Board D) (code : Byte) (type : QueryState) (w : World D) :
    ∃ buff, buff.getD 4 0 = code ∧
      ((replyState b code type).run w).2.sent = buff :: w.sent := by
  have hget (k : ConfigT) : Keeps World.sent (getConfig b k) := getConfig_moves (fun _ _ _ _ => rfl) k
  have hquery : Keeps World.sent (queryState b type) := queryState_moves (fun _ _ _ => rfl) type
  have hstate : Keeps World.sent (getAddr b >>= fun _ => getSn b >>= fun _ => queryState b type) :=
    Moves.bind (hget _) fun _ => Moves.bind (hget _) fun _ => hquery
  exact ⟨_, rfl, congrArg (List.cons _) (hstate w)⟩

lemma production_query_disagrees {b : Board D} {w : World D} {d : Buffer} (h : d.get 4 = 0x3F) :
    ¬ DispatchAgrees b w d .avcProductionQuery := by
  rintro ⟨-, -, l, hl, hreplies⟩
  obtain ⟨buff, hbuff, hsent⟩ := replyState_sent b 0x31 .avcSwitchLedRelayState
    ((protocolParser d).run w).2
  obtain rfl : [buff] = l := List.append_cancel_right (hsent.symm.trans hl)
  have h31 : buff.getD 4 0 = answerCode (d.get 4) := hreplies buff (List.mem_singleton_self _)
  rw [hbuff, h] at h31
  cases h31

theorem dispatch_agrees_iff (b : Board D) (w : World D) (d : Buffer) (t : LockType)
    (i : HandlerIndex) (hset : w.set = (protocolSet t).getD []) (hi : accepted w d = some i) :
    DispatchAgrees b w d i ↔ d.get 4 ≠ 0x3F := by
  have hcode : d.get 4 = i.funcCode := funcCode_of_accepted hset hi
  constructor
  · intro hagrees h3f
    cases i with
    | avcProductionQuery => exact production_query_disagrees h3f hagrees
    | _ => cases hcode.symm.trans h3f
  · intro hne
    refine ⟨hcode ▸ protocolHandler_written b d i, hset ▸ protocolSet_nodup t, ?_⟩
    have hcommands : CodedCommands b (Sends fun buff => buff.getD 4 0 = answerCode (d.get 4))
        (fun _ => True) (· = i.replyCode) := by
      refine sends_commands fun body hb hc => ?_
      rw [withCrc, List.getD_append _ _ _ _ (lt_of_lt_of_le (by decide) hb.lower), hc, hcode]
      exact replyCode_eq (hcode ▸ hne)
    exact protocolHandler_coded hcommands d i (fun _ _ => trivial) rfl _

theorem dispatch_agrees_query : DispatchAgrees (bench followingRelay) startedYk grammarQuery
    .ykQueryState :=
  (dispatch_agrees_iff (bench followingRelay) startedYk grammarQuery .ykLock .ykQueryState rfl
    (by decide)).mpr (by decide)

def superQuery : Buffer := ⟨withCrc [0x19, 0x00, 0x01, 0x01, 0x3F], fun _ => 0⟩

theorem dispatch_disagrees_super_query : startedAvc.set = protocolSetAvcSwitch ∧
    accepted startedAvc superQuery = some .avcProductionQuery ∧
      ¬ DispatchAgrees (bench followingRelay) startedAvc superQuery .avcProductionQuery :=
  ⟨rfl, by decide, production_query_disagrees (by decide)⟩

end YkLock
