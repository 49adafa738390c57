import AndroidMkxp.Activity.Gate
import AndroidMkxp.Activity.Lifecycle
import AndroidMkxp.Activity.Login
import AndroidMkxp.Activity.MessageBox
import AndroidMkxp.Activity.Native
import AndroidMkxp.Activity.Screens
import AndroidMkxp.Activity.Shutdown
import AndroidMkxp.Activity.Threads
import AndroidMkxp.Foundation.Batch
import AndroidMkxp.Foundation.Edits
import AndroidMkxp.Foundation.Handles
import AndroidMkxp.Foundation.History
import AndroidMkxp.Foundation.Machine
import AndroidMkxp.Foundation.Numerals
import AndroidMkxp.Foundation.Replica
import AndroidMkxp.Foundation.Roster
import AndroidMkxp.Foundation.Separator
import AndroidMkxp.Foundation.Signals
import AndroidMkxp.Foundation.Utf16
import AndroidMkxp.Input.Connections
import AndroidMkxp.Input.DeviceIds
import AndroidMkxp.Input.Devices
import AndroidMkxp.Input.Gatt
import AndroidMkxp.Input.Haptics
import AndroidMkxp.Input.Joysticks
import AndroidMkxp.Input.Polls
import AndroidMkxp.Input.Registry
import AndroidMkxp.Input.TextInput
import AndroidMkxp.Saves.Assets
import AndroidMkxp.Saves.Directory
import AndroidMkxp.Saves.Download
import AndroidMkxp.Saves.Migration
import AndroidMkxp.Saves.Names
import AndroidMkxp.Saves.Upload
import AndroidMkxp.Sync.Echo
import AndroidMkxp.Sync.Launch
import AndroidMkxp.Sync.Load
import AndroidMkxp.Sync.Pending
import AndroidMkxp.Sync.Provenance
import AndroidMkxp.Sync.Rollback
import AndroidMkxp.Sync.System
import AndroidMkxp.Sync.Trace
import AndroidMkxp.Sync.Uploads
import AndroidMkxp.Touch.Cross
import AndroidMkxp.Touch.Fingers
import AndroidMkxp.Touch.HitZones
import AndroidMkxp.Touch.Overlay
import AndroidMkxp.Touch.Views
