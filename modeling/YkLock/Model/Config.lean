import YkLock.Model.World

/-! `config.c` with the getters and modifiers of `operation.c` and `lock_info_update` of `lock.c`,
which call each other. -/

namespace YkLock

def defaultDeviceType : LockType := .ykLock

def defaultChannelType : ChannelType := .hwUsingCan

def defaultHardwareType : HwType := .hwAvcSwitch

def LockType.toByte : LockType → Byte
  | .ykLock => 0
  | .ykColdLock => 1
  | .avc => 2
  | .avcColdLock => 3
  | .avcSwitch => 4
  | .deviceTypeMax => 5

def LockType.ofByte (devType : Byte) : LockType :=
  if devType = 0 then .ykLock else if devType = 1 then .ykColdLock else if devType = 2 then .avc
  else if devType = 3 then .avcColdLock else if devType = 4 then .avcSwitch else .deviceTypeMax

def deviceIdTable : List Byte := [0x03, 0x03, 0x03, 0x03, 0x19]

variable {D : Type} (b : Board D)

/-- Past the end of the table this reads the byte the linker placed behind it. -/
def getDeviceIdByLockType (type : LockType) : Byte :=
  deviceIdTable.getD type.toByte.toNat b.afterTable

def configGet (type : ConfigT) : Fw D (Option type.Value) := do
  match ← at24cxxRead b with
  | none => return none
  | some image =>
    modify fun w => { w with cache := Info.decode image }
    return some ((Info.decode image).get type)

/-- A getter: the local keeps what it held when `config_get` fails. -/
def getConfig (type : ConfigT) : Fw D type.Value := do
  match ← configGet b type with
  | none => uninit b type.width
  | some v => return v

def getAddr : Fw D Byte := getConfig b .addr

def getSn : Fw D Word := getConfig b .sn

def getTimeoutExec : Fw D Byte := getConfig b .timeoutExec

def getTimeoutCmd : Fw D Byte := getConfig b .timeoutCmd

def LockType.sanitised (devType : Byte) : LockType :=
  if LockType.deviceTypeMax.toByte.toNat < devType.toNat then defaultDeviceType else .ofByte devType

def getDevice : Fw D LockType := do
  let devType ← getConfig b .deviceType
  return .sanitised devType

def lockInfo (addr : Byte) (sn : Word) (lockType : LockType) : LockInfo where
  devId := getDeviceIdByLockType b lockType
  netId := 0x00
  addr := addr
  sn := sn
  lockType := lockType
  hardwareType := defaultHardwareType
  channelType := defaultChannelType

def lockInfoUpdate : Fw D Unit := do
  let addr ← getAddr b
  let sn ← getSn b
  let lockType ← getDevice b
  modify fun w => { w with info := lockInfo b addr sn lockType }

def configModify (type : ConfigT) (parameter : type.Value) : Fw D RtErr := do
  let info := Info.set type parameter (← get).cache
  if (← at24cxxWrite b info.encode) = true then
    modify fun w => { w with cache := info }
    lockInfoUpdate b
    return .eok
  else
    return .error

def modifyAddr (address : Byte) : Fw D RtErr := configModify b .addr address

def modifySn (sn : Word) : Fw D RtErr := configModify b .sn sn

def modifyDevice (type : Byte) : Fw D RtErr := configModify b .deviceType type

def modifyTimeoutExec (timeout : Byte) : Fw D RtErr := configModify b .timeoutExec timeout

def modifyTimeoutCmd (timeout : Byte) : Fw D RtErr := configModify b .timeoutCmd timeout

/-- The cache `config_init` leaves: only three of its fields are set. -/
def Info.initialised (info cache : Info) : Info :=
  { cache with
    addr := if info.addr ≠ 0 then info.addr else 0x01
    sn := if info.sn ≠ 0 then info.sn else 0x000001
    devType := if info.devType.toNat < LockType.deviceTypeMax.toByte.toNat then info.devType
      else defaultDeviceType.toByte }

def configInit : Fw D Unit := do
  let unread := b.stackInfo (← get).dev
  match ← at24cxxRead b with
  | none => modify fun w => { w with cache := unread.initialised w.cache }
  | some image => modify fun w => { w with cache := (Info.decode image).initialised w.cache }

lemma configGet_run (type : ConfigT) (w : World D) : (configGet b type).run w =
    match b.at24cxx.read w.dev with
    | (none, d) => (none, { w with dev := d })
    | (some image, d) =>
      (some ((Info.decode image).get type), { w with dev := d, cache := Info.decode image }) := by
  rcases h : b.at24cxx.read w.dev with ⟨_ | image, d⟩ <;> simp [configGet, h]

lemma getConfig_run (type : ConfigT) (w : World D) : (getConfig b type).run w =
    match b.at24cxx.read w.dev with
    | (none, d) => (b.stack d type.width, { w with dev := d })
    | (some image, d) =>
      ((Info.decode image).get type, { w with dev := d, cache := Info.decode image }) := by
  rcases h : b.at24cxx.read w.dev with ⟨_ | image, d⟩ <;> simp [getConfig, configGet_run, h]

end YkLock
