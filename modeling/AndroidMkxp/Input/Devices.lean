import AndroidMkxp.Foundation.History
import AndroidMkxp.Foundation.Signals
import AndroidMkxp.Input.DeviceIds
import Mathlib.Data.List.AList

/-!
# The HID devices

`HIDDeviceManager` makes an object for every HID interface of a USB device that is plugged in, and
for every Steam Controller, tells SDL about it, and hands SDL's requests to it.

Broadcasts arrive on the main thread, the answers of a controller on the threads of Bluetooth, and
requests on any thread of SDL. A request first looks the id up; only then it goes on, and the device
may have come or gone in the meantime. The same is true of a request that opens a device while it
waits for the system, and of an answer of a controller that goes on to register it.

Broadcasts and calls of `close` count as one step.
-/

namespace AndroidMkxp.Input.HIDDeviceManager

open Foundation

inductive Direction where
  | USB_DIR_IN
  | USB_DIR_OUT
  deriving DecidableEq

structure UsbInterface where
  mId : ℕ
  mClass : ℕ
  mSubclass : ℕ
  mProtocol : ℕ
  mEndpoints : List Direction := [.USB_DIR_IN, .USB_DIR_OUT]
  deriving DecidableEq

/-- Two devices are equal for `UsbDevice.equals` if their names are. -/
structure UsbDevice where
  mName : JString
  mVendorId : ℕ
  mProductId : ℕ
  mInterfaces : List UsbInterface
  deriving DecidableEq

/-- The interface has an endpoint in each direction. -/
def UsbDevice.hasEndpoints (usbDevice : UsbDevice) (mInterfaceIndex : ℕ) : Bool :=
  match usbDevice.mInterfaces[mInterfaceIndex]? with
  | none       => false
  | some iface => .USB_DIR_IN ∈ iface.mEndpoints ∧ .USB_DIR_OUT ∈ iface.mEndpoints

def USB_CLASS_HID : ℕ := 3
def USB_CLASS_VENDOR_SPEC : ℕ := 255

def isXbox360Controller (usbDevice : UsbDevice) (usbInterface : UsbInterface) : Bool :=
  let XB360_IFACE_SUBCLASS := 93
  let XB360_IFACE_PROTOCOL := 1
  let XB360W_IFACE_PROTOCOL := 129
  let SUPPORTED_VENDORS := [0x0079, 0x044f, 0x045e, 0x046d, 0x056e, 0x06a3, 0x0738, 0x07ff, 0x0e6f,
    0x0f0d, 0x1038, 0x11c9, 0x12ab, 0x1430, 0x146b, 0x1532, 0x15e4, 0x162e, 0x1689, 0x1949, 0x1bad,
    0x20d6, 0x24c6, 0x2c22]
  usbInterface.mClass = USB_CLASS_VENDOR_SPEC ∧ usbInterface.mSubclass = XB360_IFACE_SUBCLASS ∧
    (usbInterface.mProtocol = XB360_IFACE_PROTOCOL ∨
      usbInterface.mProtocol = XB360W_IFACE_PROTOCOL) ∧
    usbDevice.mVendorId ∈ SUPPORTED_VENDORS

def isXboxOneController (usbDevice : UsbDevice) (usbInterface : UsbInterface) : Bool :=
  let XB1_IFACE_SUBCLASS := 71
  let XB1_IFACE_PROTOCOL := 208
  let SUPPORTED_VENDORS := [0x045e, 0x0738, 0x0e6f, 0x0f0d, 0x1532, 0x20d6, 0x24c6, 0x2dc8, 0x2e24]
  usbInterface.mId = 0 ∧ usbInterface.mClass = USB_CLASS_VENDOR_SPEC ∧
    usbInterface.mSubclass = XB1_IFACE_SUBCLASS ∧ usbInterface.mProtocol = XB1_IFACE_PROTOCOL ∧
    usbDevice.mVendorId ∈ SUPPORTED_VENDORS

def isHIDDeviceInterface (usbDevice : UsbDevice) (usbInterface : UsbInterface) : Bool :=
  usbInterface.mClass = USB_CLASS_HID ∨ isXbox360Controller usbDevice usbInterface ∨
    isXboxOneController usbDevice usbInterface

def DEVICE_TYPE_LE : ℕ := 2

/-- A Bluetooth device may have no name. -/
def isSteamController (name : Option JString) (type : ℕ) : Bool :=
  match name with
  | none => false
  | some name => name = "SteamController".toList ∧ type &&& DEVICE_TYPE_LE ≠ 0

/-- What a device object is made for. -/
inductive Hardware where
  | usb (mDevice : UsbDevice) (mInterfaceIndex : ℕ)
  | steamController (mDevice : BluetoothDevice)
  deriving DecidableEq

def Hardware.port : Hardware → Port
  | .usb mDevice mInterfaceIndex =>
    .usb mDevice.mName mDevice.mVendorId mDevice.mProductId mInterfaceIndex
  | .steamController mDevice => .steamController mDevice

/-- `HIDDeviceUSB` or `HIDDeviceBLESteamController`. -/
structure HIDDevice where
  hardware : Hardware
  mDeviceId : BitVec 32
  /-- `mManager` is not null: the device has not been shut down. -/
  hasManager : Bool := true
  /-- Of a Steam Controller, as the next field. -/
  mIsRegistered : Bool := false
  /-- SDL has been told of it. No code reads this. -/
  reported : Bool := false
  /-- Of a USB device: the number of its connection. -/
  mConnection : Option ℕ := none
  deriving DecidableEq

namespace HIDDevice

/-- Whether the device is an interface of the USB device. -/
def isOf (device : HIDDevice) (usbDevice : UsbDevice) : Bool :=
  match device.hardware with
  | .usb mDevice _      => mDevice.mName = usbDevice.mName
  | .steamController _ => false

def connect (connection : Option ℕ) (device : HIDDevice) : HIDDevice :=
  { device with mConnection := connection }

def shutDown (device : HIDDevice) : HIDDevice :=
  { device with hasManager := false, mIsRegistered := false }

def setRegistered (device : HIDDevice) : HIDDevice := { device with mIsRegistered := true }

def report (device : HIDDevice) : HIDDevice := { device with reported := true }

/-- SDL is told of an interface at once, of a Steam Controller when it has been configured. -/
def told (device : HIDDevice) : Bool :=
  match device.hardware with
  | .usb _ _            => true
  | .steamController _ => device.reported

end HIDDevice

/-- How the system answers `HIDDeviceUSB.open`. -/
inductive Ending where
  | noConnection
  | notClaimed
  | claimed
  deriving DecidableEq

/-- Whether `open` has what it needs. -/
def Hardware.opens (hardware : Hardware) (ending : Ending) : Bool :=
  match hardware with
  | .usb mDevice mInterfaceIndex => ending = .claimed ∧ mDevice.hasEndpoints mInterfaceIndex
  | .steamController _           => true

structure State where
  ids : Ids
  /-- All device objects ever made. The maps hold their positions. -/
  devices : List HIDDevice
  mDevicesById : AList fun _ : BitVec 32 => ℕ
  mBluetoothDevices : AList fun _ : BluetoothDevice => ℕ
  /-- The requests that have looked their id up, with what they found. -/
  requests : List (BitVec 32 × Option ℕ)
  /-- The calls of `open` for requests that have an answer of the system, and have not stored the
  connection. -/
  opening : List (ℕ × Ending)
  /-- Those that have stored it and go on to close it. -/
  failing : List ℕ
  /-- The calls of `onCharacteristicWrite` that register their controller, and whether they have
  told SDL. -/
  callbacks : List (ℕ × Bool)
  /-- The USB connections that are open and have been stored. -/
  connections : List ℕ
  /-- How many connections have been stored. -/
  connected : ℕ

inductive Event where
  | HIDDeviceConnected (deviceID : BitVec 32) (hardware : Hardware)
  | HIDDeviceOpenPending (deviceID : BitVec 32)
  | HIDDeviceOpenResult (deviceID : BitVec 32) (opened : Bool)
  | HIDDeviceDisconnected (deviceID : BitVec 32)
  /-- The device object stores the connection that it has got, or null. -/
  | stored (ref : ℕ)
  /-- The device object has no connection any more. -/
  | unconnected (ref : ℕ)
  deriving DecidableEq

namespace State

def modify (s : State) (ref : ℕ) (f : HIDDevice → HIDDevice) : State :=
  { s with devices := s.devices.modify ref f }

/-- The id that the constructor of a device object gets for it. -/
def newId (s : State) (hardware : Hardware) : BitVec 32 := (s.ids.idFor hardware.port).1

/-- A device object is made and put into the map. -/
def put (s : State) (hardware : Hardware) : State :=
  { s with
    ids := (s.ids.idFor hardware.port).2
    devices := s.devices ++ [{ hardware, mDeviceId := s.newId hardware }]
    mDevicesById := s.mDevicesById.insert (s.newId hardware) s.devices.length }

/-- A new connection is stored. -/
def newConnection (s : State) (ref : ℕ) : State :=
  { s with
    devices := s.devices.modify ref (HIDDevice.connect (some s.connected))
    connections := s.connected :: s.connections
    connected := s.connected + 1 }

/-- What the system has given to `open` goes into `mConnection`. -/
def store (s : State) (ref : ℕ) (ending : Ending) : State × List Event :=
  if ending = .noConnection then
    (s.modify ref (HIDDevice.connect none), [.stored ref, .unconnected ref])
  else (s.newConnection ref, [.stored ref])

/-- `HIDDevice.close` -/
def deviceClose (s : State) (ref : ℕ) : State × List Event :=
  match s.devices[ref]?.bind HIDDevice.mConnection with
  | some connection =>
    ({ s with
      devices := s.devices.modify ref (HIDDevice.connect none)
      connections := s.connections.erase connection }, [.unconnected ref])
  | none => (s, [])

/-- `HIDDevice.shutdown` -/
def deviceShutdown (s : State) (ref : ℕ) : State × List Event :=
  let (s, events) := s.deviceClose ref
  (s.modify ref HIDDevice.shutDown, events)

/-- `HIDDevice.open` on the main thread. An object that has been shut down throws an exception. -/
def deviceOpen (s : State) (ref : ℕ) (ending : Ending) : State × List Event × Bool :=
  match s.devices[ref]? with
  | none => (s, [], false)
  | some device =>
    match device.hardware with
    | .steamController _ => (s, [], true)
    | .usb _ _ =>
      if device.hasManager = false then (s, [], false)
      else
        let stored := s.store ref ending
        if ending = .noConnection then (stored.1, stored.2, false)
        else if device.hardware.opens ending then (stored.1, stored.2, true)
        else
          let closed := stored.1.deviceClose ref
          (closed.1, stored.2 ++ closed.2, false)

/-- `HIDDevice.open` for a request, up to the answer of the system. The caller catches the exception
of an object that has been shut down. -/
def requestOpen (s : State) (ref : ℕ) (ending : Ending) : State :=
  match s.devices[ref]? with
  | none => s
  | some device =>
    match device.hardware with
    | .steamController _ => s
    | .usb _ _ =>
      if device.hasManager then { s with opening := s.opening ++ [(ref, ending)] } else s

/-- The `n`-th call of `open` stores the connection. -/
def opened (s : State) (n : ℕ) : State × List Event :=
  match s.opening[n]? with
  | none => (s, [])
  | some (ref, ending) =>
    match s.devices[ref]? with
    | none => (s, [])
    | some device =>
      let fails := ending ≠ .noConnection ∧ ¬ device.hardware.opens ending
      { s with
        opening := s.opening.eraseIdx n
        failing := if fails then s.failing ++ [ref] else s.failing }.store ref ending

/-- The `n`-th call of `open` that has failed closes the device. -/
def givesUp (s : State) (n : ℕ) : State × List Event :=
  match s.failing[n]? with
  | none => (s, [])
  | some ref => { s with failing := s.failing.eraseIdx n }.deviceClose ref

/-- `1 << interface_id`, which takes the number modulo 32. -/
def interfaceBit (usbInterface : UsbInterface) : BitVec 32 := 1#32 <<< (usbInterface.mId % 32)

/-- The interfaces from `interface_index` on. -/
def connectInterfaces (usbDevice : UsbDevice) (interface_mask : BitVec 32) (interface_index : ℕ) :
    List UsbInterface → State → State × List Event
  | [], s => (s, [])
  | usbInterface :: rest, s =>
    if isHIDDeviceInterface usbDevice usbInterface then
      -- Check to see if we've already added this interface
      if interface_mask &&& interfaceBit usbInterface ≠ 0 then
        connectInterfaces usbDevice interface_mask (interface_index + 1) rest s
      else
        let hardware := .usb usbDevice interface_index
        let (s', events) := connectInterfaces usbDevice
          (interface_mask ||| interfaceBit usbInterface) (interface_index + 1) rest (s.put hardware)
        (s', .HIDDeviceConnected (s.newId hardware) hardware :: events)
    else connectInterfaces usbDevice interface_mask (interface_index + 1) rest s

def connectHIDDeviceUSB (s : State) (usbDevice : UsbDevice) : State × List Event :=
  connectInterfaces usbDevice 0 0 usbDevice.mInterfaces s

/-- The ids and objects in `mDevicesById` that belong to the USB device. -/
def interfacesOf (s : State) (usbDevice : UsbDevice) : List (BitVec 32 × ℕ) :=
  (s.mDevicesById.entries.filter fun entry => s.devices[entry.2]?.any (·.isOf usbDevice)).map
    fun entry => (entry.1, entry.2)

/-- A device leaves the map and is shut down. -/
def disconnect (s : State) (id : BitVec 32) (ref : ℕ) : State × List Event :=
  let (s', events) :=
    { s with mDevicesById := s.mDevicesById.erase id }.deviceShutdown ref
  (s', events ++ [.HIDDeviceDisconnected id])

def disconnectAll : List (BitVec 32 × ℕ) → State → State × List Event
  | [], s => (s, [])
  | (id, ref) :: rest, s =>
    let (s', events) := s.disconnect id ref
    let (s'', events') := disconnectAll rest s'
    (s'', events ++ events')

def handleUsbDeviceDetached (s : State) (usbDevice : UsbDevice) : State × List Event :=
  disconnectAll (s.interfacesOf usbDevice) s

def openAll (permission_granted : Bool) (ending : ℕ → Ending) :
    List (BitVec 32 × ℕ) → State → State × List Event
  | [], s => (s, [])
  | (id, ref) :: rest, s =>
    let (s', events, opened) := if permission_granted then s.deviceOpen ref (ending ref)
      else (s, [], false)
    let (s'', events') := openAll permission_granted ending rest s'
    (s'', events ++ .HIDDeviceOpenResult id opened :: events')

def handleUsbDevicePermission (s : State) (usbDevice : UsbDevice) (permission_granted : Bool)
    (ending : ℕ → Ending) : State × List Event :=
  openAll permission_granted ending (s.interfacesOf usbDevice) s

def connectBluetoothDevice (s : State) (bluetoothDevice : BluetoothDevice) : State :=
  -- A controller that is there only reconnects.
  if bluetoothDevice ∈ s.mBluetoothDevices then s
  else
    { s.put (.steamController bluetoothDevice) with
      mBluetoothDevices := s.mBluetoothDevices.insert bluetoothDevice s.devices.length }

def disconnectBluetoothDevice (s : State) (bluetoothDevice : BluetoothDevice) :
    State × List Event :=
  match s.mBluetoothDevices.lookup bluetoothDevice with
  | none => (s, [])
  | some ref =>
    match s.devices[ref]? with
    | none => (s, [])
    | some device =>
      { s with mBluetoothDevices := s.mBluetoothDevices.erase bluetoothDevice }.disconnect
        device.mDeviceId ref

/-- The device object, if it is a `HIDDeviceBLESteamController`. -/
def controllerAt (s : State) (ref : ℕ) : Option HIDDevice :=
  s.devices[ref]?.filter fun device => device.hardware matches .steamController _

/-- `HIDDeviceBLESteamController.onCharacteristicWrite`, of the report characteristic, up to the
call of `HIDDeviceConnected`. An object that has been shut down throws an exception, which the
Bluetooth stack catches. -/
def onCharacteristicWrite (s : State) (ref : ℕ) : State :=
  match s.controllerAt ref with
  | none => s
  | some device =>
    if device.mIsRegistered ∨ device.hasManager = false then s
    else { s with callbacks := s.callbacks ++ [(ref, false)] }

/-- The `n`-th of the calls of `onCharacteristicWrite` goes on: it tells SDL, and then calls
`setRegistered`. -/
def callback (s : State) (n : ℕ) : State × List Event :=
  match s.callbacks[n]? with
  | none => (s, [])
  | some (ref, false) =>
    match s.controllerAt ref with
    | none => (s, [])
    | some device =>
      ({ s.modify ref HIDDevice.report with callbacks := s.callbacks.set n (ref, true) },
        [.HIDDeviceConnected device.mDeviceId device.hardware])
  | some (ref, true) =>
    ({ s.modify ref HIDDevice.setRegistered with callbacks := s.callbacks.eraseIdx n }, [])

def shutdownAll : List (BitVec 32 × ℕ) → State → State × List Event
  | [], s => (s, [])
  | (_, ref) :: rest, s =>
    let (s', events) := s.deviceShutdown ref
    let (s'', events') := shutdownAll rest s'
    (s'', events ++ events')

/-- `HIDDeviceManager.close` -/
def close (s : State) : State × List Event :=
  let (s, events) :=
    shutdownAll (s.mDevicesById.entries.map fun entry => (entry.1, entry.2)) s
  ({ s with mDevicesById := ∅, mBluetoothDevices := ∅ }, events)

end State

/-- Whether the app may use the device. -/
inductive Permission where
  | hasPermission
  /-- The user is asked. -/
  | requested
  /-- The request for permission throws an exception. -/
  | notRequested
  deriving DecidableEq

/-- What SDL wants of a device. -/
inductive Request where
  | openDevice (permission : Permission) (ending : Ending)
  /-- `sendOutputReport`, `sendFeatureReport` or `getFeatureReport`. -/
  | report
  | closeDevice
  deriving DecidableEq

/-- A request goes on with what it has found. -/
def State.answer (s : State) (id : BitVec 32) (found : Option ℕ) (request : Request) :
    State × List Event :=
  match found with
  | none => (s, [.HIDDeviceDisconnected id])
  | some ref =>
    match request with
    | .openDevice permission ending =>
      let isUsb := s.devices[ref]?.any fun device => device.hardware matches .usb _ _
      if isUsb ∧ permission ≠ .hasPermission then
        (s, .HIDDeviceOpenPending id ::
          if permission = .notRequested then [.HIDDeviceOpenResult id false] else [])
      else (s.requestOpen ref ending, [])
    | .report => (s, [])
    | .closeDevice => s.deviceClose ref

inductive Action where
  | ACTION_USB_DEVICE_ATTACHED (usbDevice : UsbDevice)
  | ACTION_USB_DEVICE_DETACHED (usbDevice : UsbDevice)
  | ACTION_USB_PERMISSION (usbDevice : UsbDevice) (permission_granted : Bool)
    (ending : ℕ → Ending)
  | ACTION_ACL_CONNECTED (device : BluetoothDevice) (name : Option JString) (type : ℕ)
  | ACTION_ACL_DISCONNECTED (device : BluetoothDevice)
  | onCharacteristicWrite (ref : ℕ)
  | callback (n : ℕ)
  /-- A request looks its id up. -/
  | getDevice (id : BitVec 32)
  /-- The `n`-th of the requests that have looked their id up goes on. -/
  | request (n : ℕ) (request : Request)
  | opened (n : ℕ)
  | givesUp (n : ℕ)

def machine : Machine State Action Event where
  step s
    | .ACTION_USB_DEVICE_ATTACHED usbDevice => some (s.connectHIDDeviceUSB usbDevice)
    | .ACTION_USB_DEVICE_DETACHED usbDevice => some (s.handleUsbDeviceDetached usbDevice)
    | .ACTION_USB_PERMISSION usbDevice permission_granted ending =>
      some (s.handleUsbDevicePermission usbDevice permission_granted ending)
    | .ACTION_ACL_CONNECTED device name type =>
      if isSteamController name type then some (s.connectBluetoothDevice device, [])
      else some (s, [])
    | .ACTION_ACL_DISCONNECTED device => some (s.disconnectBluetoothDevice device)
    | .onCharacteristicWrite ref => some (s.onCharacteristicWrite ref, [])
    | .callback n => some (s.callback n)
    | .getDevice id =>
      some ({ s with requests := s.requests ++ [(id, s.mDevicesById.lookup id)] }, [])
    | .request n request =>
      match s.requests[n]? with
      | none => none
      | some (id, found) =>
        some ({ s with requests := s.requests.eraseIdx n }.answer id found request)
    | .opened n => some (s.opened n)
    | .givesUp n => some (s.givesUp n)

/-- A manager that has just been made, with the ids of earlier processes. -/
def start (ids : Ids) : State where
  ids := ids
  devices := []
  mDevicesById := ∅
  mBluetoothDevices := ∅
  requests := []
  opening := []
  failing := []
  callbacks := []
  connections := []
  connected := 0

end AndroidMkxp.Input.HIDDeviceManager
