import VitaQmBluetooth.Foundation.Interleaving
import VitaQmBluetooth.QmState.Restore
import VitaQmBluetooth.QmState.Occupancy
import VitaQmBluetooth.QmState.Presses
import VitaQmBluetooth.QmState.BulkRecords
import VitaQmBluetooth.UmodCallback.FailedCopy
import VitaQmBluetooth.UmodCallback.EventFlag
import VitaQmBluetooth.Bluetooth.ExportBounds
import VitaQmBluetooth.KmodEvent.EndToEnd
import VitaQmBluetooth.UmodCallback.TornRead
import VitaQmBluetooth.Quickmenu.StaleSnapshot
import VitaQmBluetooth.Quickmenu.Agreement
import VitaQmBluetooth.Quickmenu.WakeUp
import VitaQmBluetooth.Quickmenu.Resynced
import VitaQmBluetooth.Logfile.WriteLine
import VitaQmBluetooth.EventThreads.SingleThread
import VitaQmBluetooth.QmState.Serialized
import VitaQmBluetooth.Quickmenu.Stopping
import VitaQmBluetooth.Quickmenu.Levels
import VitaQmBluetooth.Logfile.Records
import VitaQmBluetooth.EventThreads.UserModule
