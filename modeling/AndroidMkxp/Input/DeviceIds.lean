import AndroidMkxp.Foundation.Machine
import AndroidMkxp.Foundation.Numerals
import AndroidMkxp.Saves.Directory
import Mathlib.Logic.Function.Basic

/-!
# The ids of HID devices

`HIDDeviceManager` numbers the devices that SDL's HID layer sees. It keeps the number of every
identifier in the shared preferences, so that a device gets it again the next time, in a later
process too.

No two devices ever share an id, and a device keeps its id, but for one case. The preferences tell
an identifier without an id by the number 0, and 0 is the first id that is given away: the device
that got it is given another one the next time.

All this is about a counter that has not wrapped around. The locale stays the same, and every
`commit` reaches the disk.
-/

namespace AndroidMkxp.Input.HIDDeviceManager

open Foundation

/-- Bluetooth addresses are pairs of hexadecimal digits with colons between. -/
structure BluetoothDevice where
  address : JString
  noSlash : '/' ∉ address
  deriving DecidableEq

/-- What an id is given to: an interface of a USB device or a Steam Controller. -/
inductive Port where
  | usb (deviceName : JString) (vendorId productId interface_index : ℕ)
  | steamController (device : BluetoothDevice)
  deriving DecidableEq

/-- The default locale, which has its own digits for `%d`. -/
structure Locale where
  digit : Char → Char
  digit_inj : ∀ m < 10, ∀ n < 10, digit m.digitChar = digit n.digitChar → m = n
  noSlash : ∀ n < 10, digit n.digitChar ≠ '/'

def Locale.format (locale : Locale) (n : ℕ) : JString := (Nat.toDigits 10 n).map locale.digit

/-- `HIDDeviceUSB.getIdentifier` and `HIDDeviceBLESteamController.getIdentifier`:
`"%s/%x/%x/%d"` and `"SteamController.%s"`. -/
def Port.getIdentifier (locale : Locale) : Port → JString
  | .usb deviceName vendorId productId interface_index =>
    deviceName ++ '/' :: Nat.toDigits 16 vendorId ++ '/' :: Nat.toDigits 16 productId ++
      '/' :: locale.format interface_index
  | .steamController device => "SteamController.".toList ++ device.address

/-- What the manager knows of ids. The preferences map a key without a value to 0, as `getInt` with
its default does. -/
structure Ids where
  locale : Locale
  mSharedPreferences : JString → BitVec 32
  mNextDeviceId : BitVec 32

def next_device_id : JString := "next_device_id".toList

namespace Ids

/-- A new manager reads where the last one has stopped. -/
def restart (ids : Ids) : Ids :=
  { ids with mNextDeviceId := ids.mSharedPreferences next_device_id }

/-- The edits are committed as a whole. -/
def getDeviceIDForIdentifier (ids : Ids) (identifier : JString) : BitVec 32 × Ids :=
  let result := ids.mSharedPreferences identifier
  if result = 0 then
    let result := ids.mNextDeviceId
    let mNextDeviceId := ids.mNextDeviceId + 1
    let spedit := Function.update ids.mSharedPreferences next_device_id mNextDeviceId
    (result, { ids with
      mSharedPreferences := Function.update spedit identifier result
      mNextDeviceId := mNextDeviceId })
  else
    let spedit := Function.update ids.mSharedPreferences identifier result
    (result, { ids with mSharedPreferences := spedit })

/-- The id for a device. -/
def idFor (ids : Ids) (port : Port) : BitVec 32 × Ids :=
  ids.getDeviceIDForIdentifier (port.getIdentifier ids.locale)

/-- The id of the device in the preferences. -/
def storedFor (ids : Ids) (port : Port) : BitVec 32 :=
  ids.mSharedPreferences (port.getIdentifier ids.locale)

/-- The counter does not wrap around for `n` more devices. -/
def Room (ids : Ids) (n : ℕ) : Prop := ids.mNextDeviceId.toNat + n ≤ 0xFFFFFFFF

instance (ids : Ids) (n : ℕ) : Decidable (ids.Room n) := Nat.decLe _ _

end Ids

/-! ### Identifiers -/

variable {locale : Locale} {port port' : Port} {ids ids' : Ids} {id : BitVec 32}
  {past tr : List (Port × BitVec 32)}

lemma slash_notMem_toDigits {b n : ℕ} (hb : 1 < b) : '/' ∉ Nat.toDigits b n := by
  intro hmem
  obtain ⟨d, -, hd⟩ := exists_of_mem_toDigits hb hmem
  exact Nat.digitChar_ne '/' (by decide) hd.symm

lemma slash_notMem_format {n : ℕ} : '/' ∉ locale.format n := by
  intro hmem
  obtain ⟨c, hc, hslash⟩ := List.mem_map.mp hmem
  obtain ⟨d, hd, rfl⟩ := exists_of_mem_toDigits (by decide) hc
  exact locale.noSlash d hd hslash

lemma format_injective : Function.Injective locale.format := by
  intro m n h
  refine toDigits_injective (b := 10) (by decide) (by decide) (map_injOn ?_ h)
  intro c hc c' hc' heq
  obtain ⟨d, hd, rfl⟩ := exists_of_mem_toDigits (by decide) hc
  obtain ⟨d', hd', rfl⟩ := exists_of_mem_toDigits (by decide) hc'
  rw [locale.digit_inj d hd d' hd' heq]

lemma slash_mem_usb {name : JString} {v p i : ℕ} :
    '/' ∈ (Port.usb name v p i).getIdentifier locale :=
  List.mem_append_right _ List.mem_cons_self

lemma slash_notMem_steamController {device : BluetoothDevice} :
    '/' ∉ (Port.steamController device).getIdentifier locale := by
  show '/' ∉ "SteamController.".toList ++ device.address
  rw [List.mem_append, not_or]
  exact ⟨by decide, device.noSlash⟩

/-- An identifier names its device. -/
theorem getIdentifier_injective : Function.Injective (Port.getIdentifier locale) := by
  intro port port' h
  cases port with
  | usb name vendor product index =>
    cases port' with
    | usb name' vendor' product' index' =>
      have hexa {n : ℕ} : '/' ∉ Nat.toDigits 16 n := slash_notMem_toDigits (by decide)
      obtain ⟨h, hindex⟩ := append_cons_inj slash_notMem_format slash_notMem_format h
      obtain ⟨h, hproduct⟩ := append_cons_inj hexa hexa h
      obtain ⟨rfl, hvendor⟩ := append_cons_inj hexa hexa h
      obtain rfl := toDigits_injective (by decide) (by decide) hvendor
      obtain rfl := toDigits_injective (by decide) (by decide) hproduct
      obtain rfl := format_injective hindex
      rfl
    | steamController device =>
      have hmem : '/' ∈ (Port.steamController device).getIdentifier locale := h ▸ slash_mem_usb
      exact absurd hmem slash_notMem_steamController
  | steamController device =>
    cases port' with
    | usb name vendor product index =>
      have hmem : '/' ∈ (Port.steamController device).getIdentifier locale := h ▸ slash_mem_usb
      exact absurd hmem slash_notMem_steamController
    | steamController device' =>
      obtain ⟨address, _⟩ := device
      obtain ⟨address', _⟩ := device'
      obtain rfl : address = address' := List.append_cancel_left h
      rfl

/-- No device has the key under which the next id is kept. -/
lemma getIdentifier_ne : port.getIdentifier locale ≠ next_device_id := by
  intro h
  cases port with
  | usb name vendor product index =>
    have hmem : '/' ∈ next_device_id := h ▸ slash_mem_usb
    exact absurd hmem (by decide)
  | steamController device =>
    have hhead : some 'S' = some 'n' := congrArg List.head? h
    exact absurd hhead (by decide)

/-! ### The ids given away -/

/-- `past` are the ids that have been given away so far, in this process and before. -/
structure Issued (past : List (Port × BitVec 32)) (ids : Ids) : Prop where
  next_eq : ids.mSharedPreferences next_device_id = ids.mNextDeviceId
  /-- The preferences hold the id of a device that has got one, if it is not 0. -/
  mem {port : Port} : ids.storedFor port ≠ 0 → (port, ids.storedFor port) ∈ past
  kept {port : Port} {id : BitVec 32} : (port, id) ∈ past → id ≠ 0 → ids.storedFor port = id
  lt {port : Port} {id : BitVec 32} : (port, id) ∈ past → id < ids.mNextDeviceId
  unshared {port port' : Port} {id : BitVec 32} :
    (port, id) ∈ past → (port', id) ∈ past → port = port'
  /-- A device keeps its id, unless that was 0. -/
  keeps : past.Pairwise fun e e' => e.1 = e'.1 → e'.2 = e.2 ∨ e.2 = 0
  /-- Only the first id of all is 0. -/
  ne_zero : ∀ e ∈ past.tail, e.2 ≠ 0

/-- The ids on a system where no id has been given away. -/
def noIds (locale : Locale) : Ids := ⟨locale, fun _ => 0, 0⟩

lemma issued_nil : Issued [] (noIds locale) where
  next_eq := rfl
  mem h := absurd rfl h
  kept h := nomatch h
  lt h := nomatch h
  unshared h := nomatch h
  keeps := .nil
  ne_zero _ h := nomatch h

lemma toNat_add_one (hroom : ids.Room 1) :
    (ids.mNextDeviceId + 1).toNat = ids.mNextDeviceId.toNat + 1 :=
  BitVec.toNat_add_of_lt (Nat.lt_succ_of_le hroom)

namespace Issued

lemma restart (h : Issued past ids) : Issued past ids.restart := by
  have hsame : ids.restart = ids := by
    rw [Ids.restart, h.next_eq]
  rw [hsame]
  exact h

/-- A device that has an id in the preferences gets it again. -/
lemma again (h : Issued past ids) (hid : ids.storedFor port = id) (hne : id ≠ 0) :
    Issued (past ++ [(port, id)]) ids := by
  have hmem : (port, id) ∈ past := hid ▸ h.mem (hid.symm ▸ hne)
  have hall {e : Port × BitVec 32} : e ∈ past ++ [(port, id)] ↔ e ∈ past := by
    rw [List.mem_append, List.mem_singleton]
    constructor
    · rintro (he | rfl)
      · exact he
      · exact hmem
    · exact Or.inl
  have hcons : past ≠ [] := List.ne_nil_of_mem hmem
  refine ⟨h.next_eq, fun hport => hall.mpr (h.mem hport), fun he => h.kept (hall.mp he),
    fun he => h.lt (hall.mp he), fun he he' => h.unshared (hall.mp he) (hall.mp he'), ?_, ?_⟩
  · rw [List.pairwise_append]
    refine ⟨h.keeps, List.pairwise_singleton _ _, ?_⟩
    rintro ⟨port', id'⟩ he e he' rfl
    obtain rfl := List.mem_singleton.mp he'
    by_cases hzero : id' = 0
    · exact Or.inr hzero
    · exact Or.inl (hid.symm.trans (h.kept he hzero))
  · intro e he
    rw [List.tail_append_of_ne_nil hcons, List.mem_append, List.mem_singleton] at he
    rcases he with he | rfl
    · exact h.ne_zero e he
    · exact hne

/-- A device without an id in the preferences gets the next one. -/
lemma fresh (h : Issued past ids) (hid : ids.storedFor port = 0)
    (hlt : ids.mNextDeviceId < ids'.mNextDeviceId)
    (hkey : ids'.mSharedPreferences next_device_id = ids'.mNextDeviceId)
    (hself : ids'.storedFor port = ids.mNextDeviceId)
    (hother : ∀ port', port' ≠ port → ids'.storedFor port' = ids.storedFor port') :
    Issued (past ++ [(port, ids.mNextDeviceId)]) ids' := by
  have hnew {port' : Port} : (port', ids.mNextDeviceId) ∉ past := fun he =>
    BitVec.lt_irrefl _ (h.lt he)
  refine ⟨hkey, ?_, ?_, ?_, ?_, ?_, ?_⟩
  · intro port' hne
    by_cases hport : port' = port
    · subst hport
      simp [hself]
    · rw [hother port' hport] at hne ⊢
      exact List.mem_append_left _ (h.mem hne)
  · intro port' id he hne
    rcases List.mem_append.mp he with hpast | hlast
    · have hport : port' ≠ port := by
        rintro rfl
        exact hne ((h.kept hpast hne).symm.trans hid)
      rw [hother port' hport]
      exact h.kept hpast hne
    · cases List.mem_singleton.mp hlast
      exact hself
  · intro port' id he
    rcases List.mem_append.mp he with he | he
    · exact BitVec.lt_trans (h.lt he) hlt
    · cases List.mem_singleton.mp he
      exact hlt
  · intro port' port'' id he he'
    rcases List.mem_append.mp he with he | he <;> rcases List.mem_append.mp he' with he' | he'
    · exact h.unshared he he'
    · cases List.mem_singleton.mp he'
      exact absurd he hnew
    · cases List.mem_singleton.mp he
      exact absurd he' hnew
    · cases List.mem_singleton.mp he
      cases List.mem_singleton.mp he'
      rfl
  · rw [List.pairwise_append]
    refine ⟨h.keeps, List.pairwise_singleton _ _, ?_⟩
    rintro ⟨port', id'⟩ he e he' rfl
    obtain rfl := List.mem_singleton.mp he'
    refine Or.inr ?_
    by_contra hne
    exact hne ((h.kept he hne).symm.trans hid)
  · intro e he
    cases past with
    | nil => cases he
    | cons first past =>
      rcases List.mem_append.mp he with he | he
      · exact h.ne_zero e he
      · obtain rfl := List.mem_singleton.mp he
        have hfirst : (first.1, first.2) ∈ first :: past := List.mem_cons_self
        have hpos := h.lt hfirst
        rintro (hzero : ids.mNextDeviceId = 0)
        rw [hzero] at hpos
        exact BitVec.not_lt_zero hpos

theorem idFor (h : Issued past ids) (hroom : ids.Room 1) (port : Port) :
    Issued (past ++ [(port, (ids.idFor port).1)]) (ids.idFor port).2 := by
  rw [Ids.idFor, Ids.getDeviceIDForIdentifier]
  split_ifs with hid
  · refine h.fresh hid ?_ ?_ (Function.update_self ..) fun port' hne => ?_
    · rw [BitVec.lt_def, toNat_add_one hroom]
      exact Nat.lt_succ_self _
    · exact (Function.update_of_ne getIdentifier_ne.symm ..).trans (Function.update_self ..)
    · exact (Function.update_of_ne (getIdentifier_injective.ne hne) ..).trans
        (Function.update_of_ne getIdentifier_ne ..)
  · rw [Function.update_eq_self]
    exact h.again rfl hid

end Issued

lemma room_mono {m n : ℕ} (h : ids.Room n) (hmn : m ≤ n) : ids.Room m :=
  Nat.le_trans (Nat.add_le_add_left hmn _) h

/-- A device takes at most one new id. -/
lemma room_idFor {n : ℕ} (h : ids.Room (n + 1)) : (ids.idFor port).2.Room n := by
  have hone := toNat_add_one (room_mono h (Nat.succ_le_succ (Nat.zero_le n)))
  rw [Ids.Room] at h
  rw [Ids.idFor, Ids.getDeviceIDForIdentifier]
  split_ifs
  · show (ids.mNextDeviceId + 1).toNat + n ≤ 0xFFFFFFFF
    omega
  · exact room_mono h (Nat.le_succ n)

/-! ### Processes -/

inductive Asking where
  /-- A device object is made. -/
  | device (port : Port)
  /-- A new process, or the first activity after the last one. -/
  | restart

def idMachine : Machine Ids Asking (Port × BitVec 32) where
  step ids
    | .device port =>
      let (id, ids') := ids.idFor port
      some (ids', [(port, id)])
    | .restart => some (ids.restart, [])

/-- The counter does not wrap around. -/
def NoOverflow (ids : Ids) : Asking → Prop
  | .device _ => ids.Room 1
  | .restart  => True

instance (ids : Ids) (action : Asking) : Decidable (NoOverflow ids action) :=
  match action with
  | .device _ => inferInstanceAs (Decidable (ids.Room 1))
  | .restart  => inferInstanceAs (Decidable True)

/-- Over any number of processes, no two devices are given the same id. A device is given the same
id every time, except that the first device of all, whose id is 0, is given another one the next
time. -/
theorem ids_name_devices (h : idMachine.Run NoOverflow (noIds locale) tr ids) :
    (∀ port port' id, (port, id) ∈ tr → (port', id) ∈ tr → port = port') ∧
    tr.Pairwise (fun e e' => e.1 = e'.1 → e'.2 = e.2 ∨ e.2 = 0) ∧
    ∀ e ∈ tr.tail, e.2 ≠ 0 := by
  have hissued : Issued tr ids := by
    refine h.invariant Issued issued_nil ?_
    intro past ids action ids' given _ hpast hroom hstep
    cases action with
    | device port =>
      cases hstep
      exact hpast.idFor hroom port
    | restart =>
      cases hstep
      rw [List.append_nil]
      exact hpast.restart
  exact ⟨fun _ _ _ => hissued.unshared, hissued.keeps, hissued.ne_zero⟩

/-- A locale with ASCII digits. -/
def Locale.ROOT : Locale where
  digit c := c
  digit_inj m hm n hn := digitChar_injOn (Nat.lt_trans hm (by decide)) (Nat.lt_trans hn (by decide))
  noSlash n _ := Nat.digitChar_ne '/' (by decide)

/-- Two interfaces of a device, in two processes: the first one changes its id. -/
theorem ids_name_devices_zero : ∃ tr ids,
    idMachine.Run NoOverflow (noIds .ROOT) tr ids ∧
    tr = [(.usb [] 0x45e 0x28e 0, 0), (.usb [] 0x45e 0x28e 1, 1), (.usb [] 0x45e 0x28e 0, 2),
      (.usb [] 0x45e 0x28e 1, 1)] ∧
    ∀ port port' id, (port, id) ∈ tr → (port', id) ∈ tr → port = port' := by
  obtain ⟨tr, ids, hrun, htr⟩ := Machine.Run.exists_of_exec idMachine NoOverflow
    (noIds .ROOT) [.device (.usb [] 0x45e 0x28e 0), .device (.usb [] 0x45e 0x28e 1), .restart,
      .device (.usb [] 0x45e 0x28e 0), .device (.usb [] 0x45e 0x28e 1)]
    (fun _ tr => tr = [(.usb [] 0x45e 0x28e 0, 0), (.usb [] 0x45e 0x28e 1, 1),
      (.usb [] 0x45e 0x28e 0, 2), (.usb [] 0x45e 0x28e 1, 1)]) ⟨_, rfl, by decide⟩
  exact ⟨tr, ids, hrun, htr, (ids_name_devices hrun).1⟩

end AndroidMkxp.Input.HIDDeviceManager
