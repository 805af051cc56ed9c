import YkLock.Model.Config
import YkLock.Library.Interleaving

/-! `config_modify` in two threads, cut where the other thread may run. -/

namespace YkLock

open Library.Interleaving Library.StatePrograms

inductive Pc
  | copy | write | assign | readAddr | readSn | readType | done
  deriving DecidableEq, Repr

structure Thread where
  pc : Pc
  info : Info
  addr : Byte
  sn : Word

variable {D : Type} (b : Board D)

/-- One step of the call that stores `c`: the copy of the cache, each EEPROM transfer and the
assignment back are atomic, and what follows a read up to the next step belongs to it. -/
def threadStep (c : ConfigWrite) (t : Thread) : Fw D Thread := do
  match t.pc with
  | .copy => return { t with pc := .write, info := Info.set c.1 c.2 (← get).cache }
  | .write =>
    if (← at24cxxWrite b t.info.encode) = true then return { t with pc := .assign }
    else return { t with pc := .done }
  | .assign =>
    modify fun w => { w with cache := t.info }
    return { t with pc := .readAddr }
  | .readAddr => return { t with pc := .readSn, addr := ← getAddr b }
  | .readSn => return { t with pc := .readType, sn := ← getSn b }
  | .readType =>
    let lockType ← getDevice b
    modify fun w => { w with info := lockInfo b t.addr t.sn lockType }
    return { t with pc := .done }
  | .done => return t

def twoThreads (calls : Bool → ConfigWrite) (x : Bool) (t : Thread) (w : World D) :
    Thread × World D :=
  (threadStep b (calls x) t).run w

lemma threadStep_write (c : ConfigWrite) (t : Thread) (w : World D) (ht : t.pc = .write) :
    (threadStep b c t).run w =
      ({ t with pc := if (b.at24cxx.write w.dev t.info.encode).1 = true then .assign else .done },
        { w with dev := (b.at24cxx.write w.dev t.info.encode).2 }) := by
  obtain ⟨pc, info, addr, sn⟩ := t
  obtain rfl : pc = .write := ht
  rw [threadStep, run_bind, at24cxxWrite_run, run_ite]
  by_cases hok : (b.at24cxx.write w.dev info.encode).1 = true
  · rw [if_pos hok, if_pos hok]
    rfl
  · rw [if_neg hok, if_neg hok]
    rfl

lemma threadStep_alone (c : ConfigWrite) (t : Thread) (w : World D) (ht : t.pc = .copy) :
    ((fun p : Thread × World D => (threadStep b c p.1).run p.2)^[6] (t, w)).2 =
      ((configModify b c.1 c.2).run w).2 := by
  obtain ⟨pc, info, addr, sn⟩ := t
  obtain rfl : pc = .copy := ht
  have hcopy : (threadStep b c ⟨.copy, info, addr, sn⟩).run w =
    (⟨.write, w.cache.set c.1 c.2, addr, sn⟩, w) := rfl
  simp only [Function.iterate_succ, Function.iterate_zero, Function.comp_apply, id_eq, hcopy,
    threadStep_write]
  rw [configModify, run_bind, run_get, run_bind, at24cxxWrite_run, run_ite]
  by_cases hok : (b.at24cxx.write w.dev (w.cache.set c.1 c.2).encode).1 = true
  · rw [if_pos hok, if_pos hok]
    rfl
  · rw [if_neg hok, if_neg hok]
    rfl

end YkLock
