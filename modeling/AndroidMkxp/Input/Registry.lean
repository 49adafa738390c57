import AndroidMkxp.Input.Devices

/-!
# What SDL knows of the HID devices

The maps of `HIDDeviceManager` and its objects, without their connections, are a `Registry`. Opening
and closing leave it alone; devices are added to it and removed from it, and controllers tell SDL of
themselves.

SDL knows no device that the manager does not have, unless a controller tells SDL of itself only
after it has gone. It knows them all, unless a request finds a device gone and tells SDL so only
after the device has come back.
-/

namespace AndroidMkxp.Input.HIDDeviceManager

open Foundation

/-- The state without connections and requests. -/
structure Registry where
  ids : Ids
  devices : List HIDDevice
  mDevicesById : AList fun _ : BitVec 32 => ℕ
  mBluetoothDevices : AList fun _ : BluetoothDevice => ℕ

def HIDDevice.forget (device : HIDDevice) : HIDDevice :=
  { device with mConnection := none, mIsRegistered := false }

def State.registry (s : State) : Registry :=
  ⟨s.ids, s.devices.map HIDDevice.forget, s.mDevicesById, s.mBluetoothDevices⟩

namespace Registry

def hardwareAt (r : Registry) (ref : ℕ) : Option Hardware :=
  r.devices[ref]?.map HIDDevice.hardware

def newId (r : Registry) (hardware : Hardware) : BitVec 32 := (r.ids.idFor hardware.port).1

def add (r : Registry) (hardware : Hardware) : Registry where
  ids := (r.ids.idFor hardware.port).2
  devices := r.devices ++ [{ hardware, mDeviceId := r.newId hardware }]
  mDevicesById := r.mDevicesById.insert (r.newId hardware) r.devices.length
  mBluetoothDevices :=
    match hardware with
    | .usb _ _                => r.mBluetoothDevices
    | .steamController device => r.mBluetoothDevices.insert device r.devices.length

/-- The device at `ref` is shut down and leaves the maps. -/
def remove (r : Registry) (id : BitVec 32) (ref : ℕ) : Registry where
  ids := r.ids
  devices := r.devices.modify ref HIDDevice.shutDown
  mDevicesById := r.mDevicesById.erase id
  mBluetoothDevices :=
    match r.hardwareAt ref with
    | some (.steamController device) => r.mBluetoothDevices.erase device
    | _                              => r.mBluetoothDevices

def report (r : Registry) (ref : ℕ) : Registry :=
  { r with devices := r.devices.modify ref HIDDevice.report }

/-- The devices that SDL has to know. -/
def told (r : Registry) : Set (BitVec 32) :=
  {id | ∃ ref device, r.mDevicesById.lookup id = some ref ∧ r.devices[ref]? = some device ∧
    device.told = true}

end Registry

instance (r : Registry) (id : BitVec 32) : Decidable (id ∈ r.told) :=
  decidable_of_iff
    (((r.mDevicesById.lookup id).bind fun ref => r.devices[ref]?).any HIDDevice.told = true) (by
      simp only [Option.any_eq_true, Option.bind_eq_some_iff]
      constructor
      · rintro ⟨device, ⟨ref, hid, hdevice⟩, htold⟩
        exact ⟨ref, device, hid, hdevice, htold⟩
      · rintro ⟨ref, device, hid, hdevice, htold⟩
        exact ⟨device, ⟨ref, hid, hdevice⟩, htold⟩)

def HIDDevice.key (device : HIDDevice) : Port × BitVec 32 :=
  (device.hardware.port, device.mDeviceId)

/-- The maps fit the objects. `past` are the ids of earlier processes. -/
structure Consistent (past : List (Port × BitVec 32)) (r : Registry) : Prop where
  issued : Issued (past ++ r.devices.map HIDDevice.key) r.ids
  byId {id : BitVec 32} {ref : ℕ} : r.mDevicesById.lookup id = some ref →
    ∃ device, r.devices[ref]? = some device ∧ device.mDeviceId = id ∧ device.hasManager = true
  /-- A controller that has not been shut down is in both maps. -/
  steamController {ref : ℕ} {device : HIDDevice} {bluetoothDevice : BluetoothDevice} :
    r.devices[ref]? = some device → device.hardware = .steamController bluetoothDevice →
    device.hasManager = true → r.mBluetoothDevices.lookup bluetoothDevice = some ref ∧
      r.mDevicesById.lookup device.mDeviceId = some ref
  bluetooth {ref : ℕ} {bluetoothDevice : BluetoothDevice} :
    r.mBluetoothDevices.lookup bluetoothDevice = some ref → ∃ device,
      r.devices[ref]? = some device ∧ device.hardware = .steamController bluetoothDevice ∧
        device.hasManager = true

variable {past : List (Port × BitVec 32)} {r : Registry} {s s' : State} {id : BitVec 32} {ref : ℕ}
  {hardware hardware' : Hardware} {device : HIDDevice} {bluetoothDevice : BluetoothDevice}
  {events tr : List Event}

lemma getElem?_registry : s.registry.devices[ref]? = some device ↔
    ∃ whole, s.devices[ref]? = some whole ∧ whole.forget = device := by
  rw [State.registry, List.getElem?_map]
  exact Option.map_eq_some_iff

lemma port_eq_steamController :
    hardware.port = .steamController bluetoothDevice ↔
      hardware = .steamController bluetoothDevice := by
  cases hardware <;> simp [Hardware.port]

/-- The objects after one has been made. -/
lemma Registry.getElem?_add : (r.add hardware).devices[ref]? = some device ↔
    r.devices[ref]? = some device ∨
      ref = r.devices.length ∧ device = { hardware, mDeviceId := r.newId hardware } := by
  simp only [Registry.add, List.getElem?_append]
  split_ifs with hlt
  · simp [Nat.ne_of_lt hlt]
  · have hnone : r.devices[ref]? = none := List.getElem?_eq_none (Nat.le_of_not_lt hlt)
    by_cases hlast : ref = r.devices.length
    · subst hlast
      simp [eq_comm]
    · have hpos : ref - r.devices.length ≠ 0 := by omega
      simp [hnone, hlast, hpos]

lemma getElem?_modify_iff {f : HIDDevice → HIDDevice} {devices : List HIDDevice} {ref' : ℕ} :
    (devices.modify ref f)[ref']? = some device ↔
      ∃ old, devices[ref']? = some old ∧ (if ref = ref' then f old else old) = device := by
  rw [List.getElem?_modify]
  exact Option.map_eq_some_iff

lemma map_modify {α : Type*} {f : HIDDevice → HIDDevice} {g : HIDDevice → α}
    {devices : List HIDDevice} (hf : ∀ device, g (f device) = g device) :
    (devices.modify ref f).map g = devices.map g := by
  refine List.ext_getElem? fun i => ?_
  rw [List.getElem?_map, List.getElem?_map, List.getElem?_modify]
  cases devices[i]? with
  | none => rfl
  | some device => by_cases href : ref = i <;> simp [href, hf]

namespace Consistent

lemma lt (h : Consistent past r) (hid : r.mDevicesById.lookup id = some ref) :
    ref < r.devices.length := by
  obtain ⟨device, hdevice, -⟩ := h.byId hid
  exact (List.getElem?_eq_some_iff.mp hdevice).1

/-- Different ids have different objects. -/
lemma ref_ne {id' : BitVec 32} {ref' : ℕ} (h : Consistent past r) (hne : id' ≠ id)
    (hid' : r.mDevicesById.lookup id' = some ref') (hid : r.mDevicesById.lookup id = some ref) :
    ref ≠ ref' := by
  rintro rfl
  obtain ⟨device, hdevice, hdid, -⟩ := h.byId hid
  obtain ⟨device', hdevice', hdid', -⟩ := h.byId hid'
  rw [hdevice, Option.some.injEq] at hdevice'
  exact hne (hdid'.symm.trans (hdevice' ▸ hdid))

lemma issued_add (h : Consistent past r) (hroom : r.ids.Room 1) (hardware : Hardware) :
    Issued (past ++ (r.add hardware).devices.map HIDDevice.key) (r.add hardware).ids := by
  have hnext := h.issued.idFor hroom hardware.port
  rw [List.append_assoc] at hnext
  simpa [Registry.add, Registry.newId, HIDDevice.key] using hnext

/-- A new object shares its id only with objects for the same hardware. -/
lemma port_of_id_eq (h : Consistent past r) (hroom : r.ids.Room 1)
    (hdevice : r.devices[ref]? = some device)
    (hid : device.mDeviceId = r.newId hardware) : device.hardware.port = hardware.port := by
  have hold : (device.hardware.port, r.newId hardware) ∈
      past ++ (r.add hardware).devices.map HIDDevice.key := by
    rw [← hid]
    refine List.mem_append_right _ (List.mem_map.mpr ⟨device, ?_, rfl⟩)
    exact List.mem_append_left _ (List.mem_of_getElem? hdevice)
  have hnew : (hardware.port, r.newId hardware) ∈
      past ++ (r.add hardware).devices.map HIDDevice.key := by
    refine List.mem_append_right _ (List.mem_map.mpr ⟨_, List.mem_append_right _
      List.mem_cons_self, rfl⟩)
  exact (h.issued_add hroom hardware).unshared hold hnew

/-- No controller that has not been shut down has the id of a new object. -/
lemma newId_ne (h : Consistent past r) (hroom : r.ids.Room 1) (hnew : ∀ bluetoothDevice,
      hardware = .steamController bluetoothDevice → bluetoothDevice ∉ r.mBluetoothDevices)
    (hdevice : r.devices[ref]? = some device)
    (hsteam : device.hardware = .steamController bluetoothDevice)
    (hmanager : device.hasManager = true) : device.mDeviceId ≠ r.newId hardware := by
  intro hid
  have hport := h.port_of_id_eq hroom hdevice hid
  rw [hsteam] at hport
  have hhardware := port_eq_steamController.mp hport.symm
  have hlookup := (h.steamController hdevice hsteam hmanager).1
  rw [AList.lookup_eq_none.mpr (hnew _ hhardware)] at hlookup
  cases hlookup

theorem add (h : Consistent past r) (hroom : r.ids.Room 1)
    (hnew : ∀ bluetoothDevice, hardware = .steamController bluetoothDevice →
      bluetoothDevice ∉ r.mBluetoothDevices) : Consistent past (r.add hardware) where
  issued := h.issued_add hroom hardware
  byId {id ref} hid := by
    by_cases heq : id = r.newId hardware
    · subst heq
      obtain rfl : r.devices.length = ref := by simpa [Registry.add] using hid
      exact ⟨_, Registry.getElem?_add.mpr (.inr ⟨rfl, rfl⟩), rfl, rfl⟩
    · have hold : r.mDevicesById.lookup id = some ref := by
        simpa [Registry.add, heq] using hid
      obtain ⟨device, hdevice, hid⟩ := h.byId hold
      exact ⟨device, Registry.getElem?_add.mpr (.inl hdevice), hid⟩
  steamController {ref device bluetoothDevice} hdevice hsteam hmanager := by
    rcases Registry.getElem?_add.mp hdevice with hold | ⟨rfl, rfl⟩
    · obtain ⟨hbluetooth, hid⟩ := h.steamController hold hsteam hmanager
      constructor
      · cases hardware with
        | usb _ _ => exact hbluetooth
        | steamController new =>
          have hne : bluetoothDevice ≠ new := by
            rintro rfl
            rw [AList.lookup_eq_none.mpr (hnew _ rfl)] at hbluetooth
            cases hbluetooth
          exact (AList.lookup_insert_ne hne).trans hbluetooth
      · exact (AList.lookup_insert_ne (h.newId_ne hroom hnew hold hsteam hmanager)).trans hid
    · simp only at hsteam
      subst hsteam
      exact ⟨AList.lookup_insert _, AList.lookup_insert _⟩
  bluetooth {ref bluetoothDevice} hlookup := by
    have hcases : r.mBluetoothDevices.lookup bluetoothDevice = some ref ∨
        hardware = .steamController bluetoothDevice ∧ ref = r.devices.length := by
      cases hardware with
      | usb _ _ => exact Or.inl hlookup
      | steamController new =>
        by_cases heq : bluetoothDevice = new
        · subst heq
          refine Or.inr ⟨rfl, ?_⟩
          simpa [Registry.add, eq_comm] using hlookup
        · exact Or.inl (by simpa [Registry.add, heq] using hlookup)
    rcases hcases with hold | ⟨rfl, rfl⟩
    · obtain ⟨device, hdevice, hsteam, hmanager⟩ := h.bluetooth hold
      exact ⟨device, Registry.getElem?_add.mpr (.inl hdevice), hsteam, hmanager⟩
    · exact ⟨_, Registry.getElem?_add.mpr (.inr ⟨rfl, rfl⟩), rfl, rfl⟩

/-- A device leaves the maps and is shut down. -/
theorem remove (h : Consistent past r) (hid : r.mDevicesById.lookup id = some ref) :
    Consistent past (r.remove id ref) := by
  obtain ⟨device, hdevice, hdid, hmanager⟩ := h.byId hid
  refine ⟨?_, ?_, ?_, ?_⟩
  · have hkeys : (r.remove id ref).devices.map HIDDevice.key = r.devices.map HIDDevice.key :=
      map_modify fun _ => rfl
    rw [hkeys]
    exact h.issued
  · intro id' ref' hid'
    have hne : id' ≠ id := by
      rintro rfl
      simp [Registry.remove] at hid'
    have hold : r.mDevicesById.lookup id' = some ref' :=
      (AList.lookup_erase_ne hne).symm.trans hid'
    obtain ⟨device', hdevice', hrest⟩ := h.byId hold
    exact ⟨device', (List.getElem?_modify_ne _ _ (h.ref_ne hne hold hid)).trans hdevice', hrest⟩
  · intro ref' device' bluetoothDevice hdevice' hsteam hmanager'
    obtain ⟨old, hold, rfl⟩ := getElem?_modify_iff.mp hdevice'
    by_cases href : ref = ref'
    · rw [if_pos href] at hmanager'
      cases hmanager'
    · rw [if_neg href] at hsteam hmanager' ⊢
      obtain ⟨hbluetooth, hid'⟩ := h.steamController hold hsteam hmanager'
      constructor
      · simp only [Registry.remove, Registry.hardwareAt, hdevice, Option.map_some]
        split
        · next new hnew =>
          have hne : bluetoothDevice ≠ new := by
            rintro rfl
            have hsame := (h.steamController hdevice (Option.some.inj hnew) hmanager).1
            exact href (Option.some.inj (hsame.symm.trans hbluetooth))
          exact (AList.lookup_erase_ne hne).trans hbluetooth
        · exact hbluetooth
      · have hne : old.mDeviceId ≠ id := by
          intro heq
          rw [heq, hid, Option.some.injEq] at hid'
          exact href hid'
        exact (AList.lookup_erase_ne hne).trans hid'
  · intro ref' bluetoothDevice hlookup
    simp only [Registry.remove, Registry.hardwareAt, hdevice, Option.map_some] at hlookup
    have hcases : r.mBluetoothDevices.lookup bluetoothDevice = some ref' ∧
        device.hardware ≠ .steamController bluetoothDevice := by
      split at hlookup
      · next new hnew =>
        have hne : bluetoothDevice ≠ new := by
          rintro rfl
          simp at hlookup
        refine ⟨(AList.lookup_erase_ne hne).symm.trans hlookup, ?_⟩
        rw [Option.some.inj hnew]
        simpa [eq_comm] using hne
      · next hnew => exact ⟨hlookup, fun hsteam => hnew _ (congrArg some hsteam)⟩
    obtain ⟨hlookup, hne⟩ := hcases
    obtain ⟨old, hold, hsteam, hmanager'⟩ := h.bluetooth hlookup
    have href : ref ≠ ref' := by
      rintro rfl
      rw [hdevice, Option.some.injEq] at hold
      exact hne (hold ▸ hsteam)
    exact ⟨old, (List.getElem?_modify_ne _ _ href).trans hold, hsteam, hmanager'⟩

theorem report (h : Consistent past r) : Consistent past (r.report ref) := by
  have hold {ref' : ℕ} {device : HIDDevice}
      (hdevice : (r.report ref).devices[ref']? = some device) :
      ∃ old, r.devices[ref']? = some old ∧ old.key = device.key ∧
        old.hardware = device.hardware ∧ old.hasManager = device.hasManager := by
    obtain ⟨old, hold, rfl⟩ := getElem?_modify_iff.mp hdevice
    refine ⟨old, hold, ?_⟩
    split_ifs <;> exact ⟨rfl, rfl, rfl⟩
  have hnew {ref' : ℕ} {old : HIDDevice} (hold : r.devices[ref']? = some old) :
      ∃ device, (r.report ref).devices[ref']? = some device ∧
        device.mDeviceId = old.mDeviceId ∧ device.hardware = old.hardware ∧
        device.hasManager = old.hasManager := by
    refine ⟨_, getElem?_modify_iff.mpr ⟨old, hold, rfl⟩, ?_⟩
    split_ifs <;> exact ⟨rfl, rfl, rfl⟩
  refine ⟨?_, ?_, ?_, ?_⟩
  · have hkeys : (r.report ref).devices.map HIDDevice.key = r.devices.map HIDDevice.key :=
      map_modify fun _ => rfl
    rw [hkeys]
    exact h.issued
  · intro id ref' hid
    obtain ⟨old, hdevice, hid, hmanager⟩ := h.byId hid
    obtain ⟨device, hdevice, hid', -, hmanager'⟩ := hnew hdevice
    exact ⟨device, hdevice, hid'.trans hid, hmanager'.trans hmanager⟩
  · intro ref' device bluetoothDevice hdevice hsteam hmanager
    obtain ⟨old, hdevice, hkey, hhardware, hmanager'⟩ := hold hdevice
    have hid : old.mDeviceId = device.mDeviceId := congrArg Prod.snd hkey
    rw [← hid]
    exact h.steamController hdevice (hhardware.trans hsteam) (hmanager'.trans hmanager)
  · intro ref' bluetoothDevice hlookup
    obtain ⟨old, hdevice, hsteam, hmanager⟩ := h.bluetooth hlookup
    obtain ⟨device, hdevice, -, hhardware, hmanager'⟩ := hnew hdevice
    exact ⟨device, hdevice, hhardware.trans hsteam, hmanager'.trans hmanager⟩

/-! ### What SDL has to know -/

lemma mem_told_add_of_ne (h : Consistent past r) (hne : id ≠ r.newId hardware) :
    id ∈ (r.add hardware).told ↔ id ∈ r.told := by
  refine exists_congr fun ref => exists_congr fun device => ?_
  have hlookup : (r.add hardware).mDevicesById.lookup id = r.mDevicesById.lookup id :=
    AList.lookup_insert_ne hne
  rw [hlookup]
  refine and_congr_right fun hid => and_congr_left fun _ => ?_
  have hlt := h.lt hid
  rw [Registry.getElem?_add, or_iff_left]
  rintro ⟨rfl, -⟩
  exact Nat.lt_irrefl _ hlt

/-- SDL has to know the id of a new object exactly if it is told of the object at once. -/
lemma newId_mem_told_add :
    r.newId hardware ∈ (r.add hardware).told ↔
      HIDDevice.told { hardware, mDeviceId := r.newId hardware } = true := by
  have hlookup : (r.add hardware).mDevicesById.lookup (r.newId hardware) = some r.devices.length :=
    AList.lookup_insert _
  constructor
  · rintro ⟨ref, device, hid, hdevice, htold⟩
    rw [hlookup, Option.some.injEq] at hid
    subst hid
    rcases Registry.getElem?_add.mp hdevice with hold | ⟨-, rfl⟩
    · exact absurd (List.getElem?_eq_some_iff.mp hold).1 (Nat.lt_irrefl _)
    · exact htold
  · intro htold
    exact ⟨_, _, hlookup, Registry.getElem?_add.mpr (.inr ⟨rfl, rfl⟩), htold⟩

theorem told_add_usb {mDevice : UsbDevice} {index : ℕ} (h : Consistent past r) :
    (r.add (.usb mDevice index)).told = insert (r.newId (.usb mDevice index)) r.told := by
  ext id
  rw [Set.mem_insert_iff]
  by_cases heq : id = r.newId (.usb mDevice index)
  · rw [heq]
    exact iff_of_true (newId_mem_told_add.mpr rfl) (Or.inl rfl)
  · rw [or_iff_right heq]
    exact h.mem_told_add_of_ne heq

/-- No object has the id of a controller that is not in the maps. -/
lemma lookup_newId (h : Consistent past r) (hroom : r.ids.Room 1)
    (hnew : bluetoothDevice ∉ r.mBluetoothDevices) :
    r.mDevicesById.lookup (r.newId (.steamController bluetoothDevice)) = none := by
  rw [Option.eq_none_iff_forall_ne_some]
  intro ref hid
  obtain ⟨device, hdevice, hdid, hmanager⟩ := h.byId hid
  have hsteam := port_eq_steamController.mp (h.port_of_id_eq hroom hdevice hdid)
  refine h.newId_ne hroom ?_ hdevice hsteam hmanager hdid
  rintro _ ⟨⟩
  exact hnew

theorem told_add_steamController (h : Consistent past r) (hroom : r.ids.Room 1)
    (hnew : bluetoothDevice ∉ r.mBluetoothDevices) :
    (r.add (.steamController bluetoothDevice)).told = r.told := by
  ext id
  by_cases heq : id = r.newId (.steamController bluetoothDevice)
  · have hnot : id ∉ r.told := by
      rintro ⟨ref, device, hid, -⟩
      rw [heq, h.lookup_newId hroom hnew] at hid
      cases hid
    refine iff_of_false ?_ hnot
    rw [heq, newId_mem_told_add]
    exact Bool.false_ne_true
  · exact h.mem_told_add_of_ne heq

theorem told_remove (h : Consistent past r) (hid : r.mDevicesById.lookup id = some ref) :
    (r.remove id ref).told = r.told \ {id} := by
  ext id'
  rw [Set.mem_sdiff, Set.mem_singleton_iff]
  by_cases heq : id' = id
  · refine iff_of_false ?_ fun hmem => hmem.2 heq
    rintro ⟨ref', device, hid', -⟩
    rw [heq, Registry.remove, AList.lookup_erase] at hid'
    cases hid'
  · rw [and_iff_left heq]
    refine exists_congr fun ref' => exists_congr fun device => ?_
    have hlookup : (r.remove id ref).mDevicesById.lookup id' = r.mDevicesById.lookup id' :=
      AList.lookup_erase_ne heq
    rw [hlookup]
    refine and_congr_right fun hid' => ?_
    have hne : ref ≠ ref' := h.ref_ne heq hid' hid
    have hsame : (r.remove id ref).devices[ref']? = r.devices[ref']? :=
      List.getElem?_modify_ne _ _ hne
    rw [hsame]

/-- A controller that has not been shut down tells SDL of itself. -/
theorem told_report (h : Consistent past r) (hdevice : r.devices[ref]? = some device)
    (hsteam : device.hardware = .steamController bluetoothDevice)
    (hmanager : device.hasManager = true) :
    (r.report ref).told = insert device.mDeviceId r.told := by
  have hid := (h.steamController hdevice hsteam hmanager).2
  ext id
  rw [Set.mem_insert_iff]
  by_cases heq : id = device.mDeviceId
  · subst heq
    refine iff_of_true ⟨ref, _, hid, getElem?_modify_iff.mpr ⟨device, hdevice, rfl⟩, ?_⟩
      (Or.inl rfl)
    rw [if_pos rfl]
    simp only [HIDDevice.told, HIDDevice.report, hsteam]
  · rw [or_iff_right heq]
    refine exists_congr fun ref' => exists_congr fun device' => and_congr_right fun hid' => ?_
    have hne : ref ≠ ref' := (h.ref_ne heq hid' hid)
    have hsame : (r.report ref).devices[ref']? = r.devices[ref']? :=
      List.getElem?_modify_ne _ _ hne
    rw [hsame]

end Consistent

/-! ### The operations of the manager -/

/-- What an event tells SDL of a device. -/
def Event.signal : Event → Option (Signal (BitVec 32))
  | .HIDDeviceConnected deviceID _  => some (.on deviceID)
  | .HIDDeviceDisconnected deviceID => some (.off deviceID)
  | _                               => none

def signals (events : List Event) : List (Signal (BitVec 32)) :=
  events.filterMap Event.signal

lemma signals_append {events' : List Event} :
    signals (events ++ events') = signals events ++ signals events' := List.filterMap_append

/-- The events tell SDL of the change, and the maps still fit the objects. -/
structure Tells (past : List (Port × BitVec 32)) (s : State) (events : List Event) (s' : State) :
    Prop where
  consistent : Consistent past s'.registry
  told_eq : s'.registry.told = after s.registry.told (signals events)

namespace Tells

lemma of_eq (h : Consistent past s.registry) (hr : s'.registry = s.registry)
    (hevents : signals events = []) : Tells past s events s' :=
  ⟨hr ▸ h, by rw [hr, hevents, after_nil]⟩

lemma append {s'' : State} {events' : List Event} (h₁ : Tells past s events s')
    (h₂ : Tells past s' events' s'') : Tells past s (events ++ events') s'' :=
  ⟨h₂.consistent, by rw [h₂.told_eq, h₁.told_eq, signals_append, after_append]⟩

end Tells

lemma registry_of_modify {f : HIDDevice → HIDDevice} (hids : s'.ids = s.ids)
    (hdevices : s'.devices = s.devices.modify ref f) (hid : s'.mDevicesById = s.mDevicesById)
    (hbluetooth : s'.mBluetoothDevices = s.mBluetoothDevices)
    (hf : ∀ device, (f device).forget = device.forget) : s'.registry = s.registry := by
  rw [State.registry, hids, hdevices, hid, hbluetooth, map_modify hf]
  rfl

@[simp] lemma registry_newConnection : (s.newConnection ref).registry = s.registry :=
  registry_of_modify rfl rfl rfl rfl fun _ => rfl

@[simp] lemma registry_deviceClose : (s.deviceClose ref).1.registry = s.registry := by
  rw [State.deviceClose]
  split
  · exact registry_of_modify rfl rfl rfl rfl fun _ => rfl
  · rfl

@[simp] lemma signals_deviceClose : signals (s.deviceClose ref).2 = [] := by
  rw [State.deviceClose]
  split <;> rfl

@[simp] lemma registry_store {ending : Ending} : (s.store ref ending).1.registry = s.registry := by
  rw [State.store]
  split_ifs
  · exact registry_of_modify rfl rfl rfl rfl fun _ => rfl
  · exact registry_newConnection

@[simp] lemma signals_store {ending : Ending} : signals (s.store ref ending).2 = [] := by
  rw [State.store]
  split_ifs <;> rfl

@[simp] lemma registry_deviceOpen {ending : Ending} :
    (s.deviceOpen ref ending).1.registry = s.registry := by
  rw [State.deviceOpen]
  split
  · rfl
  · split
    · rfl
    · split_ifs
      · rfl
      · exact registry_store
      · exact registry_store
      · exact registry_deviceClose.trans registry_store

@[simp] lemma signals_deviceOpen {ending : Ending} :
    signals (s.deviceOpen ref ending).2.1 = [] := by
  rw [State.deviceOpen]
  split
  · rfl
  · split
    · rfl
    · split_ifs
      · rfl
      · exact signals_store
      · exact signals_store
      · simp only [signals_append, signals_store, signals_deviceClose, List.append_nil]

lemma registry_requestOpen {ending : Ending} :
    (s.requestOpen ref ending).registry = s.registry := by
  rw [State.requestOpen]
  split
  · rfl
  · split
    · rfl
    · split_ifs <;> rfl

lemma registry_opened {n : ℕ} : (s.opened n).1.registry = s.registry := by
  rw [State.opened]
  split
  · rfl
  · split
    · rfl
    · exact registry_store

lemma signals_opened {n : ℕ} : signals (s.opened n).2 = [] := by
  rw [State.opened]
  split
  · rfl
  · split
    · rfl
    · exact signals_store

lemma registry_givesUp {n : ℕ} : (s.givesUp n).1.registry = s.registry := by
  rw [State.givesUp]
  split
  · rfl
  · exact registry_deviceClose

lemma signals_givesUp {n : ℕ} : signals (s.givesUp n).2 = [] := by
  rw [State.givesUp]
  split
  · rfl
  · exact signals_deviceClose

lemma registry_put {mDevice : UsbDevice} {index : ℕ} :
    (s.put (.usb mDevice index)).registry = s.registry.add (.usb mDevice index) := by
  simp only [State.registry, State.put, Registry.add, List.map_append, List.length_map]
  rfl

/-- The interfaces of a USB device are added one after the other. -/
lemma tells_connectInterfaces {usbDevice : UsbDevice} (interface_mask : BitVec 32)
    (interface_index : ℕ) (interfaces : List UsbInterface) (h : Consistent past s.registry)
    (hroom : s.ids.Room interfaces.length) :
    Tells past s (State.connectInterfaces usbDevice interface_mask interface_index interfaces s).2
      (State.connectInterfaces usbDevice interface_mask interface_index interfaces s).1 := by
  induction interfaces generalizing s interface_mask interface_index with
  | nil => exact .of_eq h rfl rfl
  | cons usbInterface rest ih =>
    have hrest : s.ids.Room rest.length := room_mono hroom (Nat.le_succ _)
    rw [State.connectInterfaces]
    split_ifs
    · exact ih _ _ h hrest
    · have hone : s.registry.ids.Room 1 := room_mono hroom (Nat.succ_le_succ (Nat.zero_le _))
      have hnew : Tells past s [.HIDDeviceConnected (s.newId (.usb usbDevice interface_index))
          (.usb usbDevice interface_index)] (s.put (.usb usbDevice interface_index)) :=
        ⟨registry_put ▸ h.add hone nofun, registry_put ▸ h.told_add_usb⟩
      exact hnew.append (ih _ _ hnew.consistent (room_idFor hroom))
    · exact ih _ _ h hrest

lemma registry_modify {f : HIDDevice → HIDDevice}
    (hf : ∀ device, (f device).forget = f device.forget) : (s.modify ref f).registry =
      { s.registry with devices := s.registry.devices.modify ref f } := by
  have hdevices : (s.devices.modify ref f).map HIDDevice.forget =
      (s.devices.map HIDDevice.forget).modify ref f := by
    refine List.ext_getElem? fun i => ?_
    rw [List.getElem?_map, List.getElem?_modify, List.getElem?_modify, List.getElem?_map]
    cases s.devices[i]? with
    | none => rfl
    | some device => by_cases href : ref = i <;> simp [href, hf]
  simp only [State.registry, State.modify, hdevices]

lemma registry_disconnect : (s.disconnect id ref).1.registry =
    { s.registry.remove id ref with mBluetoothDevices := s.mBluetoothDevices } := by
  rw [State.disconnect, State.deviceShutdown]
  refine (registry_modify (f := HIDDevice.shutDown) fun _ => rfl).trans ?_
  rw [registry_deviceClose]
  rfl

/-- A device that is in the map leaves it. -/
lemma tells_disconnect (h : Consistent past s.registry) (hid : s.mDevicesById.lookup id = some ref)
    (hr : (s'.disconnect id ref).1.registry = s.registry.remove id ref) :
    Tells past s (s'.disconnect id ref).2 (s'.disconnect id ref).1 := by
  have hevents : signals (s'.disconnect id ref).2 = [.off id] := by
    rw [State.disconnect, signals_append]
    simp only [State.deviceShutdown, signals_deviceClose]
    rfl
  exact ⟨hr ▸ h.remove hid, by rw [hr, h.told_remove hid, hevents]; rfl⟩

lemma mem_interfacesOf {usbDevice : UsbDevice} :
    (id, ref) ∈ s.interfacesOf usbDevice ↔ s.mDevicesById.lookup id = some ref ∧
      ∃ device, s.devices[ref]? = some device ∧ device.isOf usbDevice = true := by
  rw [← Option.mem_def, AList.mem_lookup_iff, ← Option.any_eq_true, State.interfacesOf]
  simp

lemma nodup_interfacesOf {usbDevice : UsbDevice} :
    ((s.interfacesOf usbDevice).map Prod.fst).Nodup := by
  rw [State.interfacesOf, List.map_map]
  exact s.mDevicesById.nodupKeys.sublist (List.filter_sublist ..)

lemma hardwareAt_registry :
    s.registry.hardwareAt ref = s.devices[ref]?.map HIDDevice.hardware := by
  rw [Registry.hardwareAt, State.registry, List.getElem?_map, Option.map_map]
  rfl

lemma hardwareAt_remove {ref' : ℕ} : (r.remove id ref).hardwareAt ref' = r.hardwareAt ref' := by
  rw [Registry.hardwareAt, Registry.hardwareAt, ← List.getElem?_map, ← List.getElem?_map]
  exact congrArg (·[ref']?) (map_modify fun _ => rfl)

lemma hardwareAt_of_mem_interfacesOf {usbDevice : UsbDevice}
    (hmem : (id, ref) ∈ s.interfacesOf usbDevice) :
    ∃ mDevice index, s.registry.hardwareAt ref = some (.usb mDevice index) := by
  obtain ⟨-, device, hdevice, hof⟩ := mem_interfacesOf.mp hmem
  rw [HIDDevice.isOf] at hof
  split at hof
  · next mDevice index hhardware =>
    exact ⟨mDevice, index, by rw [hardwareAt_registry, hdevice, Option.map_some, hhardware]⟩
  · cases hof

/-- When one interface has left the map, the others are still there. -/
lemma disconnect_rest {rest : List (BitVec 32 × ℕ)}
    (hnodup : (((id, ref) :: rest).map Prod.fst).Nodup)
    (hid : ∀ id' ref', (id', ref') ∈ (id, ref) :: rest → s.mDevicesById.lookup id' = some ref')
    (husb : ∀ id' ref', (id', ref') ∈ (id, ref) :: rest →
      ∃ mDevice index, s.registry.hardwareAt ref' = some (.usb mDevice index)) :
    (∀ id' ref', (id', ref') ∈ rest →
      (s.disconnect id ref).1.mDevicesById.lookup id' = some ref') ∧
    (∀ id' ref', (id', ref') ∈ rest → ∃ mDevice index,
      (s.disconnect id ref).1.registry.hardwareAt ref' = some (.usb mDevice index)) ∧
    (s.disconnect id ref).1.registry = s.registry.remove id ref := by
  have hremove : (s.disconnect id ref).1.registry = s.registry.remove id ref := by
    obtain ⟨mDevice, index, hhardware⟩ := husb id ref List.mem_cons_self
    rw [registry_disconnect, Registry.remove, hhardware]
    rfl
  refine ⟨fun id' ref' hmem => ?_, fun id' ref' hmem => ?_, hremove⟩
  · have hne : id' ≠ id := by
      rintro rfl
      exact (List.nodup_cons.mp hnodup).1 (List.mem_map.mpr ⟨_, hmem, rfl⟩)
    have hmap : (s.disconnect id ref).1.mDevicesById = s.mDevicesById.erase id :=
      congrArg Registry.mDevicesById hremove
    rw [hmap, AList.lookup_erase_ne hne]
    exact hid id' ref' (List.mem_cons_of_mem _ hmem)
  · rw [hremove, hardwareAt_remove]
    exact husb id' ref' (List.mem_cons_of_mem _ hmem)

/-- The interfaces of a USB device leave the map one after the other. -/
lemma tells_disconnectAll {devices : List (BitVec 32 × ℕ)} (h : Consistent past s.registry)
    (hnodup : (devices.map Prod.fst).Nodup)
    (hid : ∀ id ref, (id, ref) ∈ devices → s.mDevicesById.lookup id = some ref)
    (husb : ∀ id ref, (id, ref) ∈ devices →
      ∃ mDevice index, s.registry.hardwareAt ref = some (.usb mDevice index)) :
    Tells past s (State.disconnectAll devices s).2 (State.disconnectAll devices s).1 := by
  induction devices generalizing s with
  | nil => exact .of_eq h rfl rfl
  | cons entry rest ih =>
    obtain ⟨id, ref⟩ := entry
    obtain ⟨hid', husb', hremove⟩ := disconnect_rest hnodup hid husb
    have hfirst := tells_disconnect h (hid id ref List.mem_cons_self) hremove
    exact hfirst.append (ih hfirst.consistent (List.nodup_cons.mp hnodup).2 hid' husb')

lemma registry_openAll {permission_granted : Bool} {ending : ℕ → Ending}
    {devices : List (BitVec 32 × ℕ)} :
    (State.openAll permission_granted ending devices s).1.registry = s.registry := by
  induction devices generalizing s with
  | nil => rfl
  | cons entry rest ih =>
    obtain ⟨id, ref⟩ := entry
    rw [State.openAll]
    split_ifs
    · exact ih.trans registry_deviceOpen
    · exact ih

lemma signals_openAll {permission_granted : Bool} {ending : ℕ → Ending}
    {devices : List (BitVec 32 × ℕ)} :
    signals (State.openAll permission_granted ending devices s).2 = [] := by
  induction devices generalizing s with
  | nil => rfl
  | cons entry rest ih =>
    obtain ⟨id, ref⟩ := entry
    rw [State.openAll]
    split_ifs
    · rw [signals_append, signals_deviceOpen]
      exact ih
    · exact ih

lemma registry_connectBluetoothDevice (s : State) (bluetoothDevice : BluetoothDevice) :
    (s.connectBluetoothDevice bluetoothDevice).registry =
    if bluetoothDevice ∈ s.mBluetoothDevices then s.registry
    else s.registry.add (.steamController bluetoothDevice) := by
  rw [State.connectBluetoothDevice]
  split_ifs
  · rfl
  · simp only [State.registry, State.put, Registry.add, List.map_append, List.length_map]
    rfl

lemma tells_connectBluetoothDevice (h : Consistent past s.registry) (hroom : s.ids.Room 1) :
    Tells past s [] (s.connectBluetoothDevice bluetoothDevice) := by
  have hr := registry_connectBluetoothDevice s bluetoothDevice
  split_ifs at hr with hold
  · exact .of_eq h hr rfl
  · refine ⟨hr ▸ h.add hroom ?_, hr ▸ h.told_add_steamController hroom hold⟩
    rintro _ ⟨⟩
    exact hold

/-- A controller that is in the maps leaves them. -/
lemma disconnectBluetoothDevice_cases (h : Consistent past s.registry)
    (bluetoothDevice : BluetoothDevice) :
    s.disconnectBluetoothDevice bluetoothDevice = (s, []) ∨ ∃ id ref t,
      s.disconnectBluetoothDevice bluetoothDevice = State.disconnect t id ref ∧
        t = { s with mBluetoothDevices := s.mBluetoothDevices.erase bluetoothDevice } ∧
        s.mDevicesById.lookup id = some ref ∧
        (t.disconnect id ref).1.registry = s.registry.remove id ref := by
  rw [State.disconnectBluetoothDevice]
  split
  · exact Or.inl rfl
  · next ref hlookup =>
    split
    · exact Or.inl rfl
    · next device hdevice =>
      obtain ⟨device', hdevice', hsteam, hmanager⟩ := h.bluetooth hlookup
      obtain ⟨whole, hwhole, rfl⟩ := getElem?_registry.mp hdevice'
      obtain rfl : device = whole := Option.some.inj (hdevice.symm.trans hwhole)
      refine Or.inr ⟨_, _, _, rfl, rfl, (h.steamController hdevice' hsteam hmanager).2, ?_⟩
      rw [registry_disconnect, Registry.remove, Registry.remove, Registry.hardwareAt,
        Registry.hardwareAt, hdevice', Option.map_some, hsteam]
      rfl

lemma tells_disconnectBluetoothDevice (h : Consistent past s.registry) :
    Tells past s (s.disconnectBluetoothDevice bluetoothDevice).2
      (s.disconnectBluetoothDevice bluetoothDevice).1 := by
  rcases disconnectBluetoothDevice_cases h bluetoothDevice with
    hsame | ⟨id, ref, t, heq, -, hid, hr⟩
  · rw [hsame]
    exact .of_eq h rfl rfl
  · rw [heq]
    exact tells_disconnect h hid hr

lemma registry_onCharacteristicWrite : (s.onCharacteristicWrite ref).registry = s.registry := by
  rw [State.onCharacteristicWrite]
  split
  · rfl
  · split_ifs <;> rfl

/-- A controller tells SDL of itself, or nothing happens that SDL has to know. -/
lemma callback_cases (s : State) (n : ℕ) :
    (s.callback n).1.registry = s.registry ∧ signals (s.callback n).2 = [] ∧
      (∀ ref, s.callbacks[n]? = some (ref, false) → s.controllerAt ref = none) ∨
    ∃ ref device, s.callbacks[n]? = some (ref, false) ∧ s.controllerAt ref = some device ∧
      (s.callback n).1.registry = s.registry.report ref ∧
      signals (s.callback n).2 = [.on device.mDeviceId] := by
  rw [State.callback]
  split
  · next hnone => exact Or.inl ⟨rfl, rfl, fun ref href => by rw [hnone] at href; cases href⟩
  · next ref hcallback =>
    split
    · next hdevice =>
      refine Or.inl ⟨rfl, rfl, fun ref' href' => ?_⟩
      rw [hcallback] at href'
      cases href'
      exact hdevice
    · next device hdevice =>
      have hr : (s.modify ref HIDDevice.report).registry = s.registry.report ref :=
        registry_modify fun _ => rfl
      exact Or.inr ⟨ref, device, hcallback, hdevice, hr, rfl⟩
  · next ref hcallback =>
    refine Or.inl ⟨registry_of_modify rfl rfl rfl rfl fun _ => rfl, rfl, fun ref' href' => ?_⟩
    rw [hcallback] at href'
    cases href'

lemma registry_answer {found : Option ℕ} {request : Request} :
    (s.answer id found request).1.registry = s.registry := by
  cases found with
  | none => rfl
  | some ref =>
    cases request with
    | openDevice permission ending =>
      simp only [State.answer]
      split_ifs
      · rfl
      · rfl
      · exact registry_requestOpen
    | report => rfl
    | closeDevice => exact registry_deviceClose

/-- A request that has found a device does not tell SDL that one has come or gone. -/
lemma signals_answer {request : Request} :
    signals (s.answer id (some ref) request).2 = [] := by
  cases request with
  | openDevice permission ending =>
    simp only [State.answer]
    split_ifs <;> rfl
  | report => rfl
  | closeDevice => exact signals_deviceClose

/-! ### Whole runs -/

/-- There are ids for the devices that are added. -/
def HasIds (s : State) : Action → Prop
  | .ACTION_USB_DEVICE_ATTACHED usbDevice => s.ids.Room usbDevice.mInterfaces.length
  | .ACTION_ACL_CONNECTED _ _ _           => s.ids.Room 1
  | _                                     => True

/-- No controller tells SDL of itself after it has gone, unless it has come back. -/
def ReportsInTime (s : State) : Action → Prop
  | .callback n => ∀ callback ∈ s.callbacks[n]?, callback.2 = false →
    ∀ device ∈ s.controllerAt callback.1,
      device.hasManager = true ∨ device.mDeviceId ∈ s.registry.told
  | _           => True

/-- No request tells SDL that a device is gone after the device has come back. -/
def AnswersInTime (s : State) : Action → Prop
  | .request n _ => ∀ request ∈ s.requests[n]?, request.2 = none → request.1 ∉ s.registry.told
  | _            => True

def InTime (s : State) (action : Action) : Prop := ReportsInTime s action ∧ AnswersInTime s action

instance (s : State) (action : Action) : Decidable (HasIds s action) :=
  match action with
  | .ACTION_USB_DEVICE_ATTACHED _ => inferInstanceAs (Decidable (s.ids.Room _))
  | .ACTION_ACL_CONNECTED _ _ _ => inferInstanceAs (Decidable (s.ids.Room 1))
  | .ACTION_USB_DEVICE_DETACHED _ | .ACTION_USB_PERMISSION _ _ _ | .ACTION_ACL_DISCONNECTED _
  | .onCharacteristicWrite _ | .callback _ | .getDevice _ | .request _ _ | .opened _ | .givesUp _ =>
    inferInstanceAs (Decidable True)

instance (s : State) (action : Action) : Decidable (ReportsInTime s action) :=
  match action with
  | .callback n => inferInstanceAs (Decidable (∀ callback ∈ s.callbacks[n]?, _ → _))
  | .ACTION_USB_DEVICE_ATTACHED _ | .ACTION_USB_DEVICE_DETACHED _ | .ACTION_USB_PERMISSION _ _ _
  | .ACTION_ACL_CONNECTED _ _ _ | .ACTION_ACL_DISCONNECTED _ | .onCharacteristicWrite _
  | .getDevice _ | .request _ _ | .opened _ | .givesUp _ => inferInstanceAs (Decidable True)

instance (s : State) (action : Action) : Decidable (AnswersInTime s action) :=
  match action with
  | .request n _ => inferInstanceAs (Decidable (∀ request ∈ s.requests[n]?, _ → _))
  | .ACTION_USB_DEVICE_ATTACHED _ | .ACTION_USB_DEVICE_DETACHED _ | .ACTION_USB_PERMISSION _ _ _
  | .ACTION_ACL_CONNECTED _ _ _ | .ACTION_ACL_DISCONNECTED _ | .onCharacteristicWrite _
  | .callback _ | .getDevice _ | .opened _ | .givesUp _ => inferInstanceAs (Decidable True)

instance (s : State) (action : Action) : Decidable (InTime s action) :=
  inferInstanceAs (Decidable (_ ∧ _))

lemma consistent_start {ids : Ids} (hids : Issued past ids) :
    Consistent past (start ids).registry where
  issued := (List.append_nil past).symm ▸ hids
  byId h := nomatch h
  steamController h := nomatch h
  bluetooth h := nomatch h

lemma told_start {ids : Ids} : (start ids).registry.told = ∅ := by
  ext id
  refine iff_of_false ?_ (Set.notMem_empty id)
  rintro ⟨ref, device, hid, -⟩
  cases hid

/-- What SDL is told has nothing to do with a change of the registry. -/
structure Late (past : List (Port × BitVec 32)) (s : State) (action : Action)
    (events : List Event) (s' : State) : Prop where
  consistent : Consistent past s'.registry
  told_eq : s'.registry.told = s.registry.told
  inTime_iff : InTime s action ↔ after s.registry.told (signals events) = s.registry.told
  subset : ReportsInTime s action → after s.registry.told (signals events) ⊆ s.registry.told

/-- A request that has found nothing. -/
lemma late_request {n : ℕ} {request : Request} (h : Consistent past s.registry)
    (hfound : s.requests[n]? = some (id, none)) (hr : s'.registry = s.registry)
    (hevents : signals events = [.off id]) : Late past s (.request n request) events s' where
  consistent := hr ▸ h
  told_eq := congrArg Registry.told hr
  inTime_iff := by
    have hiff : InTime s (.request n request) ↔ id ∉ s.registry.told := by
      simp [InTime, ReportsInTime, AnswersInTime, hfound]
    rw [hiff, hevents, after_cons, after_nil]
    constructor
    · exact Set.sdiff_singleton_eq_self
    · intro heq hmem
      rw [← heq] at hmem
      exact hmem.2 rfl
  subset _ := by
    rw [hevents]
    exact Set.sdiff_subset

namespace Consistent

/-- A controller that has been shut down tells SDL of itself. -/
lemma report_gone (h : Consistent past r) (hdevice : r.devices[ref]? = some device)
    (hmanager : device.hasManager = false) : (r.report ref).told = r.told := by
  ext id
  refine exists_congr fun ref' => exists_congr fun device' => and_congr_right fun hid => ?_
  have hne : ref ≠ ref' := by
    rintro rfl
    obtain ⟨device', hdevice', -, hmanager'⟩ := h.byId hid
    rw [hdevice, Option.some.injEq] at hdevice'
    rw [← hdevice', hmanager] at hmanager'
    cases hmanager'
  have hsame : (r.report ref).devices[ref']? = r.devices[ref']? :=
    List.getElem?_modify_ne _ _ hne
  rw [hsame]

end Consistent

lemma controllerAt_eq_some (h : s.controllerAt ref = some device) :
    s.registry.devices[ref]? = some device.forget ∧
      ∃ bluetoothDevice, device.hardware = .steamController bluetoothDevice := by
  obtain ⟨hdevice, hmatches⟩ := Option.filter_eq_some_iff.mp h
  refine ⟨getElem?_registry.mpr ⟨device, hdevice, rfl⟩, ?_⟩
  split at hmatches
  · next bluetoothDevice hsteam => exact ⟨bluetoothDevice, hsteam⟩
  · cases hmatches

lemma late_callback {n : ℕ} (h : Consistent past s.registry)
    (hcallback : s.callbacks[n]? = some (ref, false)) (hdevice : s.controllerAt ref = some device)
    (hmanager : device.hasManager = false) (hr : s'.registry = s.registry.report ref)
    (hevents : signals events = [.on device.mDeviceId]) :
    Late past s (.callback n) events s' := by
  have hgone := h.report_gone (controllerAt_eq_some hdevice).1 hmanager
  have hreports : ReportsInTime s (.callback n) ↔ device.mDeviceId ∈ s.registry.told := by
    simp [ReportsInTime, hcallback, hdevice, hmanager]
  have hin : InTime s (.callback n) ↔ ReportsInTime s (.callback n) := and_iff_left trivial
  refine ⟨hr ▸ h.report, hr ▸ hgone, ?_, fun hreport => ?_⟩
  · rw [hin, hreports, hevents]
    exact Set.insert_eq_self.symm
  · rw [hevents]
    exact (Set.insert_eq_self.mpr (hreports.mp hreport)).subset

/-- A step tells SDL of the change, or it tells SDL something that is late. -/
theorem step_tells {action : Action} {after : State × List Event}
    (h : Consistent past s.registry) (hids : HasIds s action)
    (hstep : machine.step s action = some after) :
    InTime s action ∧ Tells past s after.2 after.1 ∨ Late past s action after.2 after.1 := by
  cases action with
  | ACTION_USB_DEVICE_ATTACHED usbDevice =>
    cases hstep
    exact Or.inl ⟨⟨trivial, trivial⟩, tells_connectInterfaces _ _ _ h hids⟩
  | ACTION_USB_DEVICE_DETACHED usbDevice =>
    cases hstep
    exact Or.inl ⟨⟨trivial, trivial⟩, tells_disconnectAll h nodup_interfacesOf
      (fun _ _ hmem => (mem_interfacesOf.mp hmem).1)
      fun _ _ hmem => hardwareAt_of_mem_interfacesOf hmem⟩
  | ACTION_USB_PERMISSION usbDevice permission_granted ending =>
    cases hstep
    exact Or.inl ⟨⟨trivial, trivial⟩, .of_eq h registry_openAll signals_openAll⟩
  | ACTION_ACL_CONNECTED device name type =>
    simp only [machine] at hstep
    split_ifs at hstep <;> cases hstep
    · exact Or.inl ⟨⟨trivial, trivial⟩, tells_connectBluetoothDevice h hids⟩
    · exact Or.inl ⟨⟨trivial, trivial⟩, .of_eq h rfl rfl⟩
  | ACTION_ACL_DISCONNECTED device =>
    cases hstep
    exact Or.inl ⟨⟨trivial, trivial⟩, tells_disconnectBluetoothDevice h⟩
  | onCharacteristicWrite ref =>
    cases hstep
    exact Or.inl ⟨⟨trivial, trivial⟩, .of_eq h registry_onCharacteristicWrite rfl⟩
  | callback n =>
    cases hstep
    rcases callback_cases s n with
      ⟨hr, hevents, hquiet⟩ | ⟨ref, device, hcallback, hdevice, hr, hevents⟩
    · refine Or.inl ⟨⟨?_, trivial⟩, .of_eq h hr hevents⟩
      rintro ⟨ref, told⟩ hcallback rfl device hdevice
      rw [hquiet ref hcallback] at hdevice
      cases hdevice
    · cases hmanager : device.hasManager with
      | false => exact Or.inr (late_callback h hcallback hdevice hmanager hr hevents)
      | true =>
        refine Or.inl ⟨⟨?_, trivial⟩, hr ▸ h.report, ?_⟩
        · simp [ReportsInTime, hcallback, hdevice, hmanager]
        · obtain ⟨hforget, bluetoothDevice, hsteam⟩ := controllerAt_eq_some hdevice
          have htold := h.told_report hforget hsteam hmanager
          rw [hevents, hr]
          exact htold
  | getDevice id =>
    cases hstep
    exact Or.inl ⟨⟨trivial, trivial⟩, .of_eq h rfl rfl⟩
  | request n request =>
    simp only [machine] at hstep
    split at hstep
    · cases hstep
    · next id found hfound =>
      cases hstep
      cases found with
      | none => exact Or.inr (late_request h hfound rfl rfl)
      | some ref =>
        refine Or.inl ⟨⟨trivial, ?_⟩, .of_eq h registry_answer signals_answer⟩
        simp [AnswersInTime, hfound]
  | opened n =>
    cases hstep
    exact Or.inl ⟨⟨trivial, trivial⟩, .of_eq h registry_opened signals_opened⟩
  | givesUp n =>
    cases hstep
    exact Or.inl ⟨⟨trivial, trivial⟩, .of_eq h registry_givesUp signals_givesUp⟩

lemma consistent_and_subset {ids : Ids} (hids : Issued past ids)
    (h : machine.Run (fun s action => HasIds s action ∧ ReportsInTime s action) (start ids) tr s) :
    Consistent past s.registry ∧ after ∅ (signals tr) ⊆ s.registry.told := by
  refine h.invariant
    (fun tr s => Consistent past s.registry ∧ after ∅ (signals tr) ⊆ s.registry.told) ?_ ?_
  · exact ⟨consistent_start hids, by rw [told_start]; exact Set.Subset.rfl⟩
  · rintro tr s action s' events - ⟨hcons, hsub⟩ ⟨hids, hreports⟩ hstep
    rw [signals_append, after_append]
    rcases step_tells hcons hids hstep with ⟨-, htells⟩ | hlate
    · exact ⟨htells.consistent, htells.told_eq ▸ after_mono hsub⟩
    · refine ⟨hlate.consistent, ?_⟩
      rw [hlate.told_eq]
      exact (after_mono hsub).trans (hlate.subset hreports)

/-- A device with two interfaces. -/
def gamepad : UsbDevice := ⟨[], 0x45e, 0x28e, [⟨0, 3, 0, 0, []⟩, ⟨1, 3, 0, 0, []⟩]⟩

end AndroidMkxp.Input.HIDDeviceManager
