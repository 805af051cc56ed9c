import YkLock.Model.Device

/-! What the configuration code computes when every EEPROM transfer succeeds. -/

namespace YkLock

open Library.Storage Library.StatePrograms

variable {D : Type}

def World.record (content : D → Image) (w : World D) : Info := Info.decode (content w.dev)

def World.loaded (content : D → Image) (w : World D) : World D :=
  { w with cache := w.record content }

def World.Synced (content : D → Image) (w : World D) : Prop := w.cache = w.record content

def Info.lockInfo (b : Board D) (i : Info) : LockInfo :=
  YkLock.lockInfo b i.addr (i.sn.setWidth 32) (.sanitised i.devType)

def World.stored (b : Board D) (r : Info) (w : World D) : World D :=
  { w with dev := (b.at24cxx.write w.dev r.encode).2, cache := r, info := r.lockInfo b }

lemma loaded_of_synced {content : D → Image} {w : World D} (hw : w.Synced content) :
    w.loaded content = w := by
  obtain ⟨dev, cache, info⟩ := w
  exact congrArg (fun c => World.mk dev c info _ _ _ _ _ _ _ _) hw.symm

lemma setWidth_sn_inj {x y : BitVec 24} : x.setWidth 32 = y.setWidth 32 ↔ x = y := by
  refine ⟨fun h => ?_, fun h => by rw [h]⟩
  simpa using congrArg (BitVec.setWidth 24) h

variable {b : Board D} {content : D → Image}

section Reads

variable (h : b.at24cxx.Readable content)
include h

lemma configGet_readable (k : ConfigT) (w : World D) :
    (configGet b k).run w = (some ((w.record content).get k), w.loaded content) := by
  simp [configGet_run, h w.dev, World.record, World.loaded]

lemma getConfig_readable (k : ConfigT) (w : World D) :
    (getConfig b k).run w = ((w.record content).get k, w.loaded content) := by
  simp [getConfig_run, h w.dev, World.record, World.loaded]

lemma getDevice_readable (w : World D) :
    (getDevice b).run w = (.sanitised (w.record content).devType, w.loaded content) := by
  simp [getDevice, getConfig_readable h, Info.get]

lemma lockInfoUpdate_readable (w : World D) :
    (lockInfoUpdate b).run w =
      ((), { w.loaded content with info := (w.record content).lockInfo b }) := by
  simp [lockInfoUpdate, getAddr, getSn, getConfig_readable h, getDevice_readable h, Info.lockInfo,
    Info.get, World.loaded, World.record]

lemma avcRelayStateVerify_readable {s : AvcRelayState} {w : World D}
    (hs : (w.record content).avcRelayState = s.toByte) (n : ℕ) (state : Byte) :
    (avcRelayStateVerify b s (n + 1) state).run w = (.eok, w.loaded content) := by
  simp [avcRelayStateVerify, configGet_readable h, Info.get, hs]

lemma getConfig_synced (k : ConfigT) {w : World D} (hw : w.Synced content) :
    (getConfig b k).run w = (w.cache.get k, w) := by
  rw [getConfig_readable h, loaded_of_synced hw, hw]

lemma getDevice_synced {w : World D} (hw : w.Synced content) :
    (getDevice b).run w = (.sanitised w.cache.devType, w) := by
  rw [getDevice_readable h, loaded_of_synced hw, hw]

lemma configModify_of_ok {k : ConfigT} {v : k.Value} {w : World D}
    (hok : (b.at24cxx.write w.dev (w.cache.set k v).encode).1 = true)
    (hc : content (b.at24cxx.write w.dev (w.cache.set k v).encode).2 = (w.cache.set k v).encode) :
    (configModify b k v).run w = (.eok, w.stored b (w.cache.set k v)) := by
  simp [configModify, hok, lockInfoUpdate_readable h, World.loaded, World.record, World.stored, hc]

end Reads

lemma configModify_of_fail {k : ConfigT} {v : k.Value} {w : World D}
    (hok : (b.at24cxx.write w.dev (w.cache.set k v).encode).1 = false) :
    (configModify b k v).run w =
      (.error, { w with dev := (b.at24cxx.write w.dev (w.cache.set k v).encode).2 }) := by
  simp [configModify, hok]

section Writes

variable (h : b.at24cxx.Reliable content)
include h

lemma record_stored (r : Info) (w : World D) : (w.stored b r).record content = r := by
  simp [World.stored, World.record, h.content_write]

lemma stored_synced (r : Info) (w : World D) : (w.stored b r).Synced content :=
  (record_stored h r w).symm

lemma configModify_reliable (k : ConfigT) (v : k.Value) (w : World D) :
    (configModify b k v).run w = (.eok, w.stored b (w.cache.set k v)) :=
  configModify_of_ok h.read (h.write_ok _ _) (h.content_write _ _)

lemma avcRelayStateSave_reliable (s : AvcRelayState) (w : World D) :
    (avcRelayStateSave b s).run w = (.eok,
      if (w.record content).avcRelayState = s.toByte then w.loaded content
      else (w.loaded content).stored b ((w.record content).set .avcSwitchState s.toByte)) := by
  by_cases hs : (w.record content).avcRelayState = s.toByte
  · simp [avcRelayStateSave, configGet_readable h.read, Info.get, hs]
  · have hw := record_stored h ((w.record content).set .avcSwitchState s.toByte) (w.loaded content)
    have hv := avcRelayStateVerify_readable h.read (s := s) (congrArg Info.avcRelayState hw) 9
      (w.record content).avcRelayState
    have hl := loaded_of_synced
      (stored_synced h ((w.record content).set .avcSwitchState s.toByte) (w.loaded content))
    simp only [World.loaded] at hv hl
    simp [avcRelayStateSave, configGet_readable h.read, Info.get, hs, configModify_reliable h,
      World.loaded, hv, hl]

end Writes

end YkLock
