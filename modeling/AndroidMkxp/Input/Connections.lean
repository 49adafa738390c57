import AndroidMkxp.Foundation.Handles
import AndroidMkxp.Input.Registry

/-!
# The connections to USB devices

A device object holds the connection that it has opened last. `HIDDeviceUSB.open` overwrites it, and
a connection that is overwritten stays open. Nothing keeps SDL and the answers to permission
requests from opening a device that is open: an answer opens all interfaces of its device. And a
device can be shut down while SDL opens it; what it stores then is never closed by the manager.

When the manager closes, it leaves no connection open exactly if every object has stored a
connection only when it had none, no object that has been shut down has one, and none is about to be
stored.
-/

namespace AndroidMkxp.Input.HIDDeviceManager

open Foundation

/-- The device objects with the connections that they hold. -/
def State.handles (s : State) : Handles ℕ where
  held ref := s.devices[ref]?.bind HIDDevice.mConnection
  opened := s.connections
  next := s.connected

def Event.opening : Event → Option (Signal ℕ)
  | .stored ref      => some (.on ref)
  | .unconnected ref => some (.off ref)
  | _                => none

/-- When device objects store connections, and when they lose them. -/
def openings (events : List Event) : List (Signal ℕ) := events.filterMap Event.opening

variable {s s' : State} {id : BitVec 32} {ref : ℕ} {device : HIDDevice}
  {events events' tr : List Event}

lemma openings_append : openings (events ++ events') = openings events ++ openings events' :=
  List.filterMap_append

lemma handles_eq {held : ℕ → Option ℕ} {opened : List ℕ} {next : ℕ}
    (hheld : ∀ i, s.devices[i]?.bind HIDDevice.mConnection = held i)
    (hopened : s.connections = opened) (hnext : s.connected = next) :
    s.handles = ⟨held, opened, next⟩ := by
  rw [State.handles, hopened, hnext, funext hheld]

lemma connection_modify_connect {devices : List HIDDevice} {connection : Option ℕ} {i : ℕ}
    (hdevice : devices[ref]? = some device) :
    (devices.modify ref (HIDDevice.connect connection))[i]?.bind HIDDevice.mConnection =
      Function.update (fun i => devices[i]?.bind HIDDevice.mConnection) ref connection i := by
  rw [List.getElem?_modify, Function.update_apply]
  by_cases hi : i = ref
  · subst hi
    simp [hdevice, HIDDevice.connect]
  · simp [hi, Ne.symm hi]

lemma handles_modify {f : HIDDevice → HIDDevice}
    (hf : ∀ device, (f device).mConnection = device.mConnection) :
    (s.modify ref f).handles = s.handles := by
  refine handles_eq (fun i => ?_) rfl rfl
  simp only [State.modify, List.getElem?_modify]
  cases s.devices[i]? with
  | none => rfl
  | some device => by_cases hi : ref = i <;> simp [hi, hf]

lemma handles_put {hardware : Hardware} : (s.put hardware).handles = s.handles := by
  refine handles_eq (fun i => ?_) rfl rfl
  simp only [State.put, List.getElem?_append]
  split_ifs with hlt
  · rfl
  · rw [List.getElem?_eq_none (Nat.le_of_not_lt hlt)]
    generalize i - s.devices.length = index
    cases hnew : [({ hardware, mDeviceId := s.newId hardware } : HIDDevice)][index]? with
    | none => rfl
    | some device =>
      obtain rfl := List.mem_singleton.mp (List.mem_of_getElem? hnew)
      rfl

/-- The events tell when the device objects store connections. -/
def Uses (s : State) (events : List Event) (s' : State) : Prop :=
  s.handles.Uses (openings events) s'.handles

namespace Uses

lemma of_eq (h : s'.handles = s.handles) (hevents : openings events = []) : Uses s events s' := by
  rw [Uses, h, hevents]
  exact .refl _

lemma congr {t : State} (h : Uses t events s') (ht : t.handles = s.handles) :
    Uses s events s' := by
  rw [Uses, ← ht]
  exact h

lemma append {s'' : State} (h₁ : Uses s events s') (h₂ : Uses s' events' s'') :
    Uses s (events ++ events') s'' := by
  rw [Uses, openings_append]
  exact h₁.trans h₂

end Uses

lemma handles_unconnected {connection : ℕ}
    (hconnection : s.devices[ref]?.bind HIDDevice.mConnection = some connection) :
    State.handles { s with
      devices := s.devices.modify ref (HIDDevice.connect none)
      connections := s.connections.erase connection } = s.handles.release ref connection := by
  obtain ⟨device, hdevice, -⟩ := Option.bind_eq_some_iff.mp hconnection
  exact handles_eq (fun _ => connection_modify_connect hdevice) rfl rfl

lemma uses_deviceClose : Uses s (s.deviceClose ref).2 (s.deviceClose ref).1 := by
  rw [State.deviceClose]
  split
  · next connection hconnection =>
    rw [Uses, handles_unconnected hconnection]
    exact .release s.handles ref connection hconnection
  · exact .of_eq rfl rfl

/-- A closed device object holds nothing. -/
lemma holders_deviceClose :
    (s.deviceClose ref).1.handles.holders = s.handles.holders \ {ref} := by
  rw [State.deviceClose]
  split
  · next connection hconnection => rw [handles_unconnected hconnection, Handles.holders_release]
  · next hnone =>
    have hnot : ref ∉ s.handles.holders := fun hholder => hholder hnone
    exact (Set.sdiff_singleton_eq_self hnot).symm

lemma handles_newConnection (hdevice : s.devices[ref]? = some device) :
    (s.newConnection ref).handles = s.handles.acquire ref :=
  handles_eq (fun _ => connection_modify_connect hdevice) rfl rfl

lemma handles_modify_none (hdevice : s.devices[ref]? = some device) :
    (s.modify ref (HIDDevice.connect none)).handles = s.handles.fail ref :=
  handles_eq (fun _ => connection_modify_connect hdevice) rfl rfl

lemma uses_newConnection (hdevice : s.devices[ref]? = some device) :
    Uses s [.stored ref] (s.newConnection ref) := by
  rw [Uses, handles_newConnection hdevice]
  exact .acquire s.handles ref

lemma uses_store {ending : Ending} (hdevice : s.devices[ref]? = some device) :
    Uses s (s.store ref ending).2 (s.store ref ending).1 := by
  rw [State.store]
  split_ifs
  · rw [Uses, handles_modify_none hdevice]
    exact .fail s.handles ref
  · exact uses_newConnection hdevice

lemma uses_deviceOpen {ending : Ending} :
    Uses s (s.deviceOpen ref ending).2.1 (s.deviceOpen ref ending).1 := by
  rw [State.deviceOpen]
  split
  · exact .of_eq rfl rfl
  · next device hdevice =>
    split
    · exact .of_eq rfl rfl
    · split_ifs
      · exact .of_eq rfl rfl
      · exact uses_store hdevice
      · exact uses_store hdevice
      · exact (uses_store hdevice).append uses_deviceClose

lemma handles_requestOpen {ending : Ending} : (s.requestOpen ref ending).handles = s.handles := by
  rw [State.requestOpen]
  split
  · rfl
  · split
    · rfl
    · split_ifs <;> rfl

lemma uses_opened {n : ℕ} : Uses s (s.opened n).2 (s.opened n).1 := by
  rw [State.opened]
  split
  · exact .of_eq rfl rfl
  · split
    · exact .of_eq rfl rfl
    · next device hdevice =>
      dsimp only
      exact .congr (uses_store hdevice) rfl

lemma uses_givesUp {n : ℕ} : Uses s (s.givesUp n).2 (s.givesUp n).1 := by
  rw [State.givesUp]
  split
  · exact .of_eq rfl rfl
  · exact uses_deviceClose.congr rfl

lemma handles_deviceShutdown :
    (s.deviceShutdown ref).1.handles = (s.deviceClose ref).1.handles :=
  handles_modify fun _ => rfl

lemma uses_deviceShutdown : Uses s (s.deviceShutdown ref).2 (s.deviceShutdown ref).1 := by
  rw [Uses, handles_deviceShutdown]
  exact uses_deviceClose

lemma holders_deviceShutdown :
    (s.deviceShutdown ref).1.handles.holders = s.handles.holders \ {ref} := by
  rw [handles_deviceShutdown, holders_deviceClose]

lemma uses_connectInterfaces {usbDevice : UsbDevice} (interface_mask : BitVec 32)
    (interface_index : ℕ) (interfaces : List UsbInterface) : Uses s
      (State.connectInterfaces usbDevice interface_mask interface_index interfaces s).2
      (State.connectInterfaces usbDevice interface_mask interface_index interfaces s).1 := by
  induction interfaces generalizing s interface_mask interface_index with
  | nil => exact .of_eq rfl rfl
  | cons usbInterface rest ih =>
    rw [State.connectInterfaces]
    split_ifs
    · exact ih _ _
    · have hput : Uses s [.HIDDeviceConnected (s.newId (.usb usbDevice interface_index))
          (.usb usbDevice interface_index)] (s.put (.usb usbDevice interface_index)) :=
        .of_eq handles_put rfl
      exact hput.append (ih _ _)
    · exact ih _ _

lemma uses_disconnect : Uses s (s.disconnect id ref).2 (s.disconnect id ref).1 := by
  let erased : State := { s with mDevicesById := s.mDevicesById.erase id }
  have hshut : Uses erased (erased.deviceShutdown ref).2 (erased.deviceShutdown ref).1 :=
    uses_deviceShutdown
  have hgone : Uses (s.disconnect id ref).1 [.HIDDeviceDisconnected id] (s.disconnect id ref).1 :=
    .of_eq rfl rfl
  exact hshut.append hgone

lemma uses_disconnectAll {devices : List (BitVec 32 × ℕ)} :
    Uses s (State.disconnectAll devices s).2 (State.disconnectAll devices s).1 := by
  induction devices generalizing s with
  | nil => exact .of_eq rfl rfl
  | cons entry rest ih => exact uses_disconnect.append ih

lemma uses_openAll {permission_granted : Bool} {ending : ℕ → Ending}
    {devices : List (BitVec 32 × ℕ)} :
    Uses s (State.openAll permission_granted ending devices s).2
      (State.openAll permission_granted ending devices s).1 := by
  induction devices generalizing s with
  | nil => exact .of_eq rfl rfl
  | cons entry rest ih =>
    obtain ⟨id, ref⟩ := entry
    have hresult {opened : Bool} {s : State} : Uses s [.HIDDeviceOpenResult id opened] s :=
      .of_eq rfl rfl
    rw [State.openAll]
    split_ifs
    · exact uses_deviceOpen.append (hresult.append ih)
    · exact hresult.append ih

lemma handles_connectBluetoothDevice {bluetoothDevice : BluetoothDevice} :
    (s.connectBluetoothDevice bluetoothDevice).handles = s.handles := by
  rw [State.connectBluetoothDevice]
  split_ifs
  · rfl
  · exact handles_put

lemma uses_disconnectBluetoothDevice {bluetoothDevice : BluetoothDevice} :
    Uses s (s.disconnectBluetoothDevice bluetoothDevice).2
      (s.disconnectBluetoothDevice bluetoothDevice).1 := by
  rw [State.disconnectBluetoothDevice]
  split
  · exact .of_eq rfl rfl
  · split
    · exact .of_eq rfl rfl
    · exact uses_disconnect.congr rfl

lemma handles_onCharacteristicWrite : (s.onCharacteristicWrite ref).handles = s.handles := by
  rw [State.onCharacteristicWrite]
  split
  · rfl
  · split_ifs <;> rfl

lemma uses_callback {n : ℕ} : Uses s (s.callback n).2 (s.callback n).1 := by
  rw [State.callback]
  split
  · exact .of_eq rfl rfl
  · split
    · exact .of_eq rfl rfl
    · exact .of_eq (handles_modify fun _ => rfl) rfl
  · exact .of_eq (handles_modify fun _ => rfl) rfl

lemma uses_answer {found : Option ℕ} {request : Request} :
    Uses s (s.answer id found request).2 (s.answer id found request).1 := by
  cases found with
  | none => exact .of_eq rfl rfl
  | some ref =>
    cases request with
    | openDevice permission ending =>
      simp only [State.answer]
      split_ifs
      · exact .of_eq rfl rfl
      · exact .of_eq rfl rfl
      · exact .of_eq handles_requestOpen rfl
    | report => exact .of_eq rfl rfl
    | closeDevice => exact uses_deviceClose

theorem step_uses {action : Action} {after : State × List Event}
    (hstep : machine.step s action = some after) : Uses s after.2 after.1 := by
  cases action with
  | ACTION_USB_DEVICE_ATTACHED usbDevice =>
    cases hstep
    exact uses_connectInterfaces _ _ _
  | ACTION_USB_DEVICE_DETACHED usbDevice =>
    cases hstep
    exact uses_disconnectAll
  | ACTION_USB_PERMISSION usbDevice permission_granted ending =>
    cases hstep
    exact uses_openAll
  | ACTION_ACL_CONNECTED device name type =>
    simp only [machine] at hstep
    split_ifs at hstep <;> cases hstep
    · exact .of_eq handles_connectBluetoothDevice rfl
    · exact .of_eq rfl rfl
  | ACTION_ACL_DISCONNECTED device =>
    cases hstep
    exact uses_disconnectBluetoothDevice
  | onCharacteristicWrite ref =>
    cases hstep
    exact .of_eq handles_onCharacteristicWrite rfl
  | callback n =>
    cases hstep
    exact uses_callback
  | getDevice id =>
    cases hstep
    exact .of_eq rfl rfl
  | request n request =>
    simp only [machine] at hstep
    split at hstep
    · cases hstep
    · cases hstep
      exact uses_answer.congr rfl
  | opened n =>
    cases hstep
    exact uses_opened
  | givesUp n =>
    cases hstep
    exact uses_givesUp

lemma run_uses {ok : State → Action → Prop} {ids : Ids} (h : machine.Run ok (start ids) tr s) :
    Uses (start ids) tr s := by
  refine h.invariant (fun tr s => Uses (start ids) tr s) (.of_eq rfl rfl) ?_
  intro tr s action s' events _ ih _ hstep
  exact ih.append (step_uses hstep)

/-! ### Devices that are attached once -/

/-- A device that is attached is not there already. -/
def AttachedOnce (s : State) : Action → Prop
  | .ACTION_USB_DEVICE_ATTACHED usbDevice => s.interfacesOf usbDevice = []
  | _                                     => True

instance (s : State) (action : Action) : Decidable (AttachedOnce s action) :=
  match action with
  | .ACTION_USB_DEVICE_ATTACHED usbDevice =>
    inferInstanceAs (Decidable (s.interfacesOf usbDevice = []))
  | .ACTION_USB_DEVICE_DETACHED _ | .ACTION_USB_PERMISSION _ _ _ | .ACTION_ACL_CONNECTED _ _ _
  | .ACTION_ACL_DISCONNECTED _ | .onCharacteristicWrite _ | .callback _ | .getDevice _
  | .request _ _ | .opened _ | .givesUp _ => inferInstanceAs (Decidable True)

/-- Every object that has not been shut down is in the map. -/
def Registry.Listed (r : Registry) : Prop :=
  ∀ ref device, r.devices[ref]? = some device → device.hasManager = true →
    r.mDevicesById.lookup device.mDeviceId = some ref

/-- The maps fit the objects, and objects that have not been shut down are in the map. -/
structure Kept (past : List (Port × BitVec 32)) (s : State) : Prop where
  consistent : Consistent past s.registry
  listed : s.registry.Listed

variable {past : List (Port × BitVec 32)} {hardware : Hardware}

namespace Registry.Listed

variable {r : Registry}

lemma add (h : r.Listed) (hnew : r.mDevicesById.lookup (r.newId hardware) = none) :
    (r.add hardware).Listed := by
  intro ref device hdevice hmanager
  rcases Registry.getElem?_add.mp hdevice with hold | ⟨rfl, rfl⟩
  · have hid := h ref device hold hmanager
    have hne : device.mDeviceId ≠ r.newId hardware := by
      intro heq
      rw [heq, hnew] at hid
      cases hid
    exact (AList.lookup_insert_ne hne).trans hid
  · exact AList.lookup_insert _

lemma remove (h : r.Listed) (hid : r.mDevicesById.lookup id = some ref) :
    (r.remove id ref).Listed := by
  intro ref' device hdevice hmanager
  obtain ⟨old, hold, rfl⟩ := getElem?_modify_iff.mp hdevice
  by_cases href : ref = ref'
  · rw [if_pos href] at hmanager
    cases hmanager
  · rw [if_neg href] at hmanager ⊢
    have hid' := h ref' old hold hmanager
    have hne : old.mDeviceId ≠ id := by
      intro heq
      rw [heq, hid, Option.some.injEq] at hid'
      exact href hid'
    exact (AList.lookup_erase_ne hne).trans hid'

lemma report (h : r.Listed) : (r.report ref).Listed := by
  intro ref' device hdevice hmanager
  obtain ⟨old, hold, rfl⟩ := getElem?_modify_iff.mp hdevice
  by_cases href : ref = ref'
  · rw [if_pos href] at hmanager ⊢
    exact h ref' old hold hmanager
  · rw [if_neg href] at hmanager ⊢
    exact h ref' old hold hmanager

end Registry.Listed

namespace Kept

lemma of_eq (h : Kept past s) (hr : s'.registry = s.registry) : Kept past s' :=
  ⟨hr ▸ h.consistent, hr ▸ h.listed⟩

/-- No object for the hardware is in the map. -/
lemma put {mDevice : UsbDevice} {index : ℕ} (h : Kept past s) (hroom : s.ids.Room 1)
    (hnew : s.mDevicesById.lookup (s.newId (.usb mDevice index)) = none) :
    Kept past (s.put (.usb mDevice index)) :=
  ⟨registry_put ▸ h.consistent.add hroom nofun, registry_put ▸ h.listed.add hnew⟩

lemma disconnect {t : State} (h : Kept past s) (hid : s.mDevicesById.lookup id = some ref)
    (hr : (t.disconnect id ref).1.registry = s.registry.remove id ref) :
    Kept past (t.disconnect id ref).1 :=
  ⟨hr ▸ h.consistent.remove hid, hr ▸ h.listed.remove hid⟩

/-- No object is there for the interfaces of the device from `index` on. -/
def Free (usbDevice : UsbDevice) (index : ℕ) (s : State) : Prop :=
  ∀ (ref : ℕ) (device : HIDDevice), s.registry.devices[ref]? = some device →
    device.hasManager = true → ∀ i ≥ index, device.hardware.port ≠ (Hardware.usb usbDevice i).port

lemma free_of_interfacesOf_eq_nil {usbDevice : UsbDevice} (h : Kept past s)
    (hnone : s.interfacesOf usbDevice = []) : Free usbDevice 0 s := by
  intro ref device hdevice hmanager i _ hport
  obtain ⟨whole, hwhole, rfl⟩ := getElem?_registry.mp hdevice
  have hof : whole.isOf usbDevice = true := by
    cases hhardware : whole.hardware with
    | usb mDevice index =>
      have hname : mDevice.mName = usbDevice.mName := by
        have hports : Hardware.port (.usb mDevice index) = (Hardware.usb usbDevice i).port :=
          hhardware ▸ hport
        injection hports
      simp [HIDDevice.isOf, hhardware, hname]
    | steamController bluetoothDevice =>
      have hports : Hardware.port (.steamController bluetoothDevice) =
          (Hardware.usb usbDevice i).port := hhardware ▸ hport
      cases hports
  have hid : s.mDevicesById.lookup whole.mDeviceId = some ref :=
    h.listed ref whole.forget hdevice hmanager
  have hmem : (whole.mDeviceId, ref) ∈ s.interfacesOf usbDevice :=
    mem_interfacesOf.mpr ⟨hid, whole, hwhole, hof⟩
  rw [hnone] at hmem
  cases hmem

lemma connectInterfaces {usbDevice : UsbDevice} (interface_mask : BitVec 32)
    (interface_index : ℕ) (interfaces : List UsbInterface) (h : Kept past s)
    (hroom : s.ids.Room interfaces.length) (hfree : Free usbDevice interface_index s) : Kept past
      (State.connectInterfaces usbDevice interface_mask interface_index interfaces s).1 := by
  induction interfaces generalizing s interface_mask interface_index with
  | nil => exact h
  | cons usbInterface rest ih =>
    have hlater : Free usbDevice (interface_index + 1) s := fun ref device hdevice hmanager i hi =>
      hfree ref device hdevice hmanager i (Nat.le_of_succ_le hi)
    have hrest : s.ids.Room rest.length := room_mono hroom (Nat.le_succ _)
    rw [State.connectInterfaces]
    split_ifs
    · exact ih _ _ h hrest hlater
    · have hone : s.ids.Room 1 := room_mono hroom (Nat.succ_le_succ (Nat.zero_le _))
      have hnew : s.mDevicesById.lookup (s.newId (.usb usbDevice interface_index)) = none := by
        rw [Option.eq_none_iff_forall_ne_some]
        intro ref hid
        obtain ⟨device, hdevice, hdid, hmanager⟩ := h.consistent.byId hid
        exact hfree ref device hdevice hmanager interface_index (Nat.le_refl _)
          (h.consistent.port_of_id_eq hone hdevice hdid)
      refine ih _ _ (h.put hone hnew) (room_idFor hroom) fun ref device hdevice hmanager i hi => ?_
      rw [registry_put] at hdevice
      rcases Registry.getElem?_add.mp hdevice with hold | ⟨-, rfl⟩
      · exact hlater ref device hold hmanager i hi
      · intro hport
        injection hport with _ _ _ hindex
        omega
    · exact ih _ _ h hrest hlater

lemma disconnectAll {devices : List (BitVec 32 × ℕ)} (h : Kept past s)
    (hnodup : (devices.map Prod.fst).Nodup)
    (hid : ∀ id ref, (id, ref) ∈ devices → s.mDevicesById.lookup id = some ref)
    (husb : ∀ id ref, (id, ref) ∈ devices →
      ∃ mDevice index, s.registry.hardwareAt ref = some (.usb mDevice index)) :
    Kept past (State.disconnectAll devices s).1 := by
  induction devices generalizing s with
  | nil => exact h
  | cons entry rest ih =>
    obtain ⟨id, ref⟩ := entry
    obtain ⟨hid', husb', hr⟩ := disconnect_rest hnodup hid husb
    exact ih (h.disconnect (hid id ref List.mem_cons_self) hr) (List.nodup_cons.mp hnodup).2
      hid' husb'

lemma connectBluetoothDevice {bluetoothDevice : BluetoothDevice} (h : Kept past s)
    (hroom : s.ids.Room 1) : Kept past (s.connectBluetoothDevice bluetoothDevice) := by
  have hr := registry_connectBluetoothDevice s bluetoothDevice
  split_ifs at hr with hold
  · exact h.of_eq hr
  · refine ⟨hr ▸ h.consistent.add hroom ?_,
      hr ▸ h.listed.add (h.consistent.lookup_newId hroom hold)⟩
    rintro _ ⟨⟩
    exact hold

lemma disconnectBluetoothDevice {bluetoothDevice : BluetoothDevice} (h : Kept past s) :
    Kept past (s.disconnectBluetoothDevice bluetoothDevice).1 := by
  rcases disconnectBluetoothDevice_cases h.consistent bluetoothDevice with
    hsame | ⟨id, ref, _, heq, rfl, hid, hr⟩
  · rw [hsame]
    exact h
  · rw [heq]
    exact h.disconnect hid hr

lemma callback {n : ℕ} (h : Kept past s) : Kept past (s.callback n).1 := by
  rcases callback_cases s n with ⟨hr, -⟩ | ⟨ref, device, -, -, hr, -⟩
  · exact h.of_eq hr
  · exact ⟨hr ▸ h.consistent.report, hr ▸ h.listed.report⟩

theorem step {action : Action} {after : State × List Event} (h : Kept past s)
    (hids : HasIds s action) (hok : AttachedOnce s action)
    (hstep : machine.step s action = some after) : Kept past after.1 := by
  cases action with
  | ACTION_USB_DEVICE_ATTACHED usbDevice =>
    cases hstep
    exact h.connectInterfaces _ _ _ hids (h.free_of_interfacesOf_eq_nil hok)
  | ACTION_USB_DEVICE_DETACHED usbDevice =>
    cases hstep
    exact h.disconnectAll nodup_interfacesOf (fun _ _ hmem => (mem_interfacesOf.mp hmem).1)
      fun _ _ hmem => hardwareAt_of_mem_interfacesOf hmem
  | ACTION_USB_PERMISSION usbDevice permission_granted ending =>
    cases hstep
    exact h.of_eq registry_openAll
  | ACTION_ACL_CONNECTED device name type =>
    simp only [machine] at hstep
    split_ifs at hstep <;> cases hstep
    · exact h.connectBluetoothDevice hids
    · exact h
  | ACTION_ACL_DISCONNECTED device =>
    cases hstep
    exact h.disconnectBluetoothDevice
  | onCharacteristicWrite ref =>
    cases hstep
    exact h.of_eq registry_onCharacteristicWrite
  | callback n =>
    cases hstep
    exact h.callback
  | getDevice id =>
    cases hstep
    exact h.of_eq rfl
  | request n request =>
    simp only [machine] at hstep
    split at hstep
    · cases hstep
    · cases hstep
      exact h.of_eq registry_answer
  | opened n =>
    cases hstep
    exact h.of_eq registry_opened
  | givesUp n =>
    cases hstep
    exact h.of_eq registry_givesUp

end Kept

lemma kept_of_run {ids : Ids} (hids : Issued past ids)
    (h : machine.Run (fun s action => HasIds s action ∧ AttachedOnce s action) (start ids) tr s) :
    Kept past s := by
  refine h.invariant (fun _ s => Kept past s) ⟨consistent_start hids, nofun⟩ ?_
  intro tr s action s' events _ ih hok hstep
  exact ih.step hok.1 hok.2 hstep

/-! ### The manager closes -/

lemma uses_shutdownAll {devices : List (BitVec 32 × ℕ)} :
    Uses s (State.shutdownAll devices s).2 (State.shutdownAll devices s).1 := by
  induction devices generalizing s with
  | nil => exact .of_eq rfl rfl
  | cons entry rest ih => exact uses_deviceShutdown.append ih

lemma along_deviceClose :
    Along Signal.Effective s.handles.holders (openings (s.deviceClose ref).2) := by
  rw [State.deviceClose]
  split
  · next connection hconnection =>
    exact ⟨Handles.mem_holders.mpr ⟨connection, hconnection⟩, trivial⟩
  · exact trivial

/-- Objects that are shut down lose only connections that they have. -/
lemma along_shutdownAll {devices : List (BitVec 32 × ℕ)} (h : s.handles.Sound) :
    Along Signal.Effective s.handles.holders (openings (State.shutdownAll devices s).2) := by
  induction devices generalizing s with
  | nil => exact trivial
  | cons entry rest ih =>
    obtain ⟨id, ref⟩ := entry
    obtain ⟨hsound, hafter, -⟩ := uses_deviceShutdown.spec h
    rw [State.shutdownAll, openings_append, along_append, ← hafter]
    exact ⟨along_deviceClose, ih hsound⟩

/-- Objects that are not shut down keep their connections. -/
lemma mem_holders_shutdownAll {devices : List (BitVec 32 × ℕ)} :
    ref ∈ (State.shutdownAll devices s).1.handles.holders ↔
      ref ∈ s.handles.holders ∧ ∀ id, (id, ref) ∉ devices := by
  induction devices generalizing s with
  | nil => simp [State.shutdownAll]
  | cons entry rest ih =>
    obtain ⟨id, ref'⟩ := entry
    refine (ih (s := (s.deviceShutdown ref').1)).trans ?_
    rw [holders_deviceShutdown, Set.mem_sdiff, Set.mem_singleton_iff]
    constructor
    · rintro ⟨⟨hholder, hne⟩, hrest⟩
      refine ⟨hholder, fun id' hmem => ?_⟩
      rcases List.mem_cons.mp hmem with heq | hmem
      · exact hne (congrArg Prod.snd heq)
      · exact hrest id' hmem
    · rintro ⟨hholder, hout⟩
      refine ⟨⟨hholder, ?_⟩, fun id' hmem => hout id' (List.mem_cons_of_mem _ hmem)⟩
      rintro rfl
      exact hout id List.mem_cons_self

/-- The connections that are open, and those among them that `open` has got and not yet stored. -/
def State.openConnections (s : State) : ℕ :=
  s.connections.length + s.opening.countP fun opening => opening.2 ≠ .noConnection

lemma opening_deviceClose : (s.deviceClose ref).1.opening = s.opening := by
  rw [State.deviceClose]
  split <;> rfl

lemma opening_shutdownAll {devices : List (BitVec 32 × ℕ)} :
    (State.shutdownAll devices s).1.opening = s.opening := by
  induction devices generalizing s with
  | nil => rfl
  | cons entry rest ih => exact ih.trans opening_deviceClose

lemma uses_close : Uses s s.close.2 s.close.1 := uses_shutdownAll

/-- When the manager closes, only objects that have been shut down before keep a connection. -/
lemma holders_close_eq_empty_iff (h : Kept past s) : s.close.1.handles.holders = ∅ ↔
    ∀ device ∈ s.devices, device.mConnection ≠ none → device.hasManager = true := by
  let devices := s.mDevicesById.entries.map fun entry => (entry.1, entry.2)
  have hlisted {id : BitVec 32} {ref : ℕ} :
      (id, ref) ∈ devices ↔ s.mDevicesById.lookup id = some ref := by
    rw [← Option.mem_def, AList.mem_lookup_iff]
    simp [devices]
  have hholder {ref : ℕ} : ref ∈ s.close.1.handles.holders ↔
      ref ∈ s.handles.holders ∧ ∀ id, (id, ref) ∉ devices := mem_holders_shutdownAll
  rw [Set.eq_empty_iff_forall_notMem]
  constructor
  · intro hnone device hmem hconnection
    obtain ⟨ref, hdevice⟩ := List.mem_iff_getElem?.mp hmem
    by_contra hmanager
    refine hnone ref (hholder.mpr ⟨?_, fun id hid => hmanager ?_⟩)
    · simpa [Handles.holders, State.handles, hdevice] using hconnection
    · obtain ⟨_, hdevice', -, hmanager'⟩ := h.consistent.byId (hlisted.mp hid)
      obtain ⟨whole, hwhole, rfl⟩ := getElem?_registry.mp hdevice'
      obtain rfl : device = whole := Option.some.inj (hdevice.symm.trans hwhole)
      exact hmanager'
  · intro hall ref href
    obtain ⟨hheld, hout⟩ := hholder.mp href
    obtain ⟨connection, hconnection⟩ := Handles.mem_holders.mp hheld
    obtain ⟨device, hdevice, hsome⟩ := Option.bind_eq_some_iff.mp hconnection
    have hmanager := hall device (List.mem_of_getElem? hdevice) (by simp [hsome])
    have hforget := getElem?_registry.mpr ⟨device, hdevice, rfl⟩
    exact hout _ (hlisted.mpr (h.listed ref device.forget hforget hmanager))

end AndroidMkxp.Input.HIDDeviceManager
