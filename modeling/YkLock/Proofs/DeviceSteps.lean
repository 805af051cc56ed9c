import YkLock.Proofs.HandlerEffects

/-! Start-up and reception, as the view of the configuration sees them. -/

namespace YkLock

open Library.Storage Library.StatePrograms

variable {D : Type}

def View.boot (b : Board D) (v : View) : View where
  record := v.record
  set := (protocolSet (.sanitised v.record.devType)).getD []
  installed := (protocolSet (.sanitised v.record.devType)).isSome
  filter := mainFilter b (v.record.lockInfo b)
  sent := v.sent
  reset := false

def View.deliver (b : Board D) (i : HandlerIndex) (d : Buffer) (s s' : Byte) (v : View) : View :=
  if (v.command i d s s').reset = true then (v.command i d s s').boot b else v.command i d s s'

lemma View.deliver_of_keep {b : Board D} {i : HandlerIndex} {d : Buffer} {s s' : Byte} {v : View}
    (hi : i ≠ .ykModifyAddr) (hr : v.record.command i d = v.record) (hv : v.reset = false) :
    v.deliver b i d s s' = { v with sent := replies i d v.record v.record s s' ++ v.sent } := by
  rw [View.deliver, View.command_of_keep hi hr rfl]
  exact if_neg (by simp [hv])

lemma getConfig_touches (b : Board D) (k : ConfigT) (w : World D) :
    ∃ v d c, (getConfig b k).run w = (v, { w with dev := d, cache := c }) := by
  rw [getConfig_run]
  rcases b.at24cxx.read w.dev with ⟨_ | image, d⟩
  · exact ⟨_, d, w.cache, rfl⟩
  · exact ⟨_, d, _, rfl⟩

lemma configInit_touches (b : Board D) (w : World D) :
    ∃ d c, ((configInit b).run w).2 = { w with dev := d, cache := c } := by
  rw [configInit, run_bind, run_get, run_bind, at24cxxRead_run]
  rcases b.at24cxx.read w.dev with ⟨_ | image, d⟩
  · exact ⟨d, _, rfl⟩
  · exact ⟨d, _, rfl⟩

lemma lockInfoUpdate_touches (b : Board D) (w : World D) : ∃ addr sn type d c,
    ((lockInfoUpdate b).run w).2 =
      { w with dev := d, cache := c, info := lockInfo b addr sn (.sanitised type) } := by
  obtain ⟨addr, d, c, haddr⟩ := getConfig_touches b .addr w
  obtain ⟨sn, d', c', hsn⟩ := getConfig_touches b .sn { w with dev := d, cache := c }
  obtain ⟨type, d'', c'', htype⟩ := getConfig_touches b .deviceType { w with dev := d', cache := c' }
  refine ⟨addr, sn, type, d'', c'', ?_⟩
  simp [lockInfoUpdate, getAddr, getSn, getDevice, haddr, hsn, htype]

lemma lockPinInit_pins (w : World D) :
    ∃ pins, ((lockPinInit (D := D)).run w).2 = { w with pins := pins } := by
  rw [lockPinInit, run_bind, run_get]
  cases w.info.hardwareType with
  | hwYk => exact ⟨_, rfl⟩
  | hwYkColdLock => exact ⟨_, rfl⟩
  | hwAvcColdLock => exact ⟨_, rfl⟩
  | hwAvcSwitch => exact ⟨_, rfl⟩

lemma protocolInit_run (w : World D) : (protocolInit (D := D)).run w =
    match protocolSet w.info.lockType with
    | none => (.error, w)
    | some set => (.eok, { w with set := set, installed := true }) := by
  rcases h : protocolSet w.info.lockType with _ | set <;> simp [protocolInit, h]

lemma lockInit_run (b : Board D) (w : World D) : ((lockInit b).run w).2 =
    ((protocolInit (D := D)).run ((lockPinInit (D := D)).run ((lockInfoUpdate b).run w).2).2).2 := by
  simp only [lockInit, run_bind]

lemma boot_run {b : Board D} {w w' : World D}
    (hw : ((lockInfoUpdate b).run ((configInit b).run w.cleared).2).2 = w') : ∃ pins, boot b w =
      { w' with
        pins := pins
        set := (protocolSet w'.info.lockType).getD w'.set
        installed := w'.installed || (protocolSet w'.info.lockType).isSome
        filter := mainFilter b w'.info } := by
  obtain ⟨pins, hpins⟩ := lockPinInit_pins w'
  have hinit : ((lockInit b).run ((configInit b).run w.cleared).2).2 =
      ((protocolInit (D := D)).run { w' with pins := pins }).2 := by
    rw [lockInit_run, hw, hpins]
  have hboot : boot b w =
      { ((lockInit b).run ((configInit b).run w.cleared).2).2 with
        filter := mainFilter b ((lockInit b).run ((configInit b).run w.cleared).2).2.info } := rfl
  refine ⟨pins, ?_⟩
  rw [hboot, hinit, protocolInit_run]
  cases protocolSet w'.info.lockType with
  | none => simp
  | some set => simp

def initModes : List PinEvent := [.mode pinAvcRelayCheck .input, .mode pinAvcK1 .output,
  .mode pinAvcK1 .output, .mode pinAvcCt2 .output, .mode pinAvcCt1 .output, .reset]

lemma boot_pins (b : Board D) (w : World D) : (boot b w).pins = initModes ++ w.pins := by
  obtain ⟨d, c, hinit⟩ := configInit_touches b w.cleared
  obtain ⟨addr, sn, type, d', c', hupdate⟩ :=
    lockInfoUpdate_touches b { w.cleared with dev := d, cache := c }
  rw [← hinit] at hupdate
  generalize hu : ((lockInfoUpdate b).run ((configInit b).run w.cleared).2).2 = u at hupdate
  have hboot : (boot b w).pins =
      ((protocolInit (D := D)).run ((lockPinInit (D := D)).run u).2).2.pins := by
    rw [← hu, ← lockInit_run]
    rfl
  have hset (v : World D) : ((protocolInit (D := D)).run v).2.pins = v.pins := by
    rw [protocolInit_run]
    cases protocolSet v.info.lockType <;> rfl
  rw [hboot, hset, hupdate, hinit]
  rfl

variable {b : Board D} {content : D → Image}

section Start

variable (h : b.at24cxx.Readable content)
include h

lemma configInit_readable (w : World D) : (configInit b).run w =
    ((), { w with cache := (w.record content).initialised w.cache }) := by
  simp [configInit, h w.dev, World.record]

lemma startInfo_readable (w : World D) :
    ((lockInfoUpdate b).run ((configInit b).run w.cleared).2).2 =
      { w.cleared with cache := w.record content, info := (w.record content).lockInfo b } := by
  rw [configInit_readable h, lockInfoUpdate_readable h]
  rfl

lemma boot_dev (w : World D) : (boot b w).dev = w.dev := by
  obtain ⟨pins, hboot⟩ := boot_run (startInfo_readable h w)
  rw [hboot]
  rfl

end Start

section Steps

variable (h : b.at24cxx.Reliable content)
include h

lemma boot_shows {v : View} {w : World D} (hr : w.record content = v.record)
    (hs : w.sent = v.sent) : Shows b content (v.boot b) (boot b w) := by
  obtain ⟨pins, hboot⟩ := boot_run (startInfo_readable h.read w)
  rw [hboot, hr]
  exact ⟨hr, rfl, rfl, rfl, rfl, rfl, hs, rfl⟩

lemma rxCb_shows {v : View} {w : World D} {d : Buffer} {i : HandlerIndex}
    (hw : Shows b content v w) (hv : v.installed = true)
    (hd : parse (v.record.lockInfo b) v.set d = some i) :
    Answers b content v i d ((rxCb b d).run w).2 := by
  have hacc : accepted w d = some i := by rwa [accepted_eq, hw.info, hw.set]
  rw [rxCb_run_of_accepted (hw.installed.trans hv) hacc]
  exact protocolHandler_shows h i d _
    ⟨hw.record, hw.cache, hw.info, hw.set, hw.installed, hw.filter, hw.sent, hw.reset⟩

lemma deliver_shows {v : View} {w : World D} {d : Buffer} {i : HandlerIndex}
    (hw : Shows b content v w) (hv : v.installed = true)
    (hd : parse (v.record.lockInfo b) v.set d = some i) :
    ∃ s s', Shows b content (v.deliver b i d s s') (deliver b d w) := by
  obtain ⟨s, s', hs⟩ := rxCb_shows h hw hv hd
  refine ⟨s, s', ?_⟩
  rw [deliver, afterReset, hs.reset, View.deliver]
  split
  · exact boot_shows h hs.record hs.sent
  · exact hs

end Steps

end YkLock
