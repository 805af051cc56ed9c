import YkLock.Model.Device

/-! Boards for concrete runs. -/

namespace YkLock

open Library.Storage

def benchOn {D : Type} (dev : Device D Image) (feedback : ℕ → List PinEvent → Bool) : Board D where
  at24cxx := dev
  feedback := feedback
  stack _ _ := 0
  stackInfo _ := ⟨0, 0, 0, 0, 0, 0⟩
  afterTable := 0

def bench (feedback : ℕ → List PinEvent → Bool) : Board Image := benchOn (Device.ideal Image) feedback

def poweredOn {D : Type} (dev : D) : World D where
  dev := dev
  cache := ⟨0, 0, 0, 0, 0, 0⟩
  info := ⟨0, 0, 0, 0, .ykLock, .hwYk, .hwUsingCan⟩
  avcState := ⟨false, false, false⟩
  set := []
  installed := false
  filter := []
  pins := []
  sent := []
  reads := []
  reset := false

def powered (r : Info) : World Image := poweredOn r.encode

lemma bench_reliable (feedback : ℕ → List PinEvent → Bool) :
    (bench feedback).at24cxx.Reliable id := Device.ideal_reliable

def followingRelay (_ : ℕ) : List PinEvent → Bool
  | [] => false
  | .write pin true :: t =>
    if pin = pinAvcRelayClose then true
    else if pin = pinAvcRelayOpen then false
    else followingRelay 0 t
  | _ :: t => followingRelay 0 t

def startedYk : World Image := boot (bench followingRelay) (powered ⟨0, 0, 5, 5, 0xD6, 1⟩)

def startedAvc : World Image := boot (bench followingRelay) (powered ⟨0, 4, 5, 5, 1, 1⟩)

end YkLock
