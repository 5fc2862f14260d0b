import LinuxDriver.Ramdisk.Request
import LinuxDriver.Ramdisk.Bio
import LinuxDriver.Fusb302.Roles
import LinuxDriver.Fusb302.Request
import LinuxDriver.Fusb302.Vbus
import LinuxDriver.Fusb302.Timeout
import LinuxDriver.Fusb302.AltMode
import LinuxDriver.Fusb302.Wakeup
import LinuxDriver.Fusb302.Svids
import LinuxDriver.Fusb302.Wire
import LinuxDriver.Fusb302.Vconn
import LinuxDriver.Led.Open
import LinuxDriver.Key.Mailbox
import LinuxDriver.Key.Readers
import LinuxDriver.Key.Lifetime
import LinuxDriver.Key.Input
import LinuxDriver.Sensor.Dht11
import LinuxDriver.Sensor.Sample
import LinuxDriver.Fusb302.Delivery
import LinuxDriver.Fusb302.Ports
import LinuxDriver.Fusb302.Transmit
import LinuxDriver.Sensor.Polling
import LinuxDriver.Led.Timer
import LinuxDriver.Iio.Icm20608
import LinuxDriver.Fusb302.Leftover
import LinuxDriver.Fusb302.Remove
import LinuxDriver.Fusb302.DisplayPort
import LinuxDriver.Fusb302.Expiry
import LinuxDriver.Fusb302.Rearm
import LinuxDriver.Fusb302.Accesses
import LinuxDriver.Iio.Core
import LinuxDriver.Iio.Direct
import LinuxDriver.Iio.Decode
import LinuxDriver.Iio.Ap3216c
import LinuxDriver.Iio.Lifetime
import LinuxDriver.Fusb302.Compose
import LinuxDriver.Fusb302.Glitch
import LinuxDriver.Fusb302.Search
import LinuxDriver.Fusb302.Debounce
import LinuxDriver.Fusb302.Trying
import LinuxDriver.Fusb302.Hush
import LinuxDriver.Fusb302.Advertise
import LinuxDriver.Fusb302.Query
import LinuxDriver.Fusb302.PinAssignment
import LinuxDriver.Sensor.Callback
import LinuxDriver.Sensor.Ds18b20App
import LinuxDriver.Iio.Calibration
import LinuxDriver.Iio.Fault
import LinuxDriver.Lib.Slots
import LinuxDriver.Touch.Ft5426
import LinuxDriver.Touch.Gt9147
import LinuxDriver.Led.TimerOpen
import LinuxDriver.Lib.Ledger
import LinuxDriver.Ramdisk.Loading
import LinuxDriver.Spi.Slave
import LinuxDriver.Spi.Icm20608
import LinuxDriver.Lib.Crc
import LinuxDriver.Lib.Mixing
import LinuxDriver.Lib.Window
import LinuxDriver.Wlan.Aes
import LinuxDriver.Wlan.Arcfour
import LinuxDriver.Wlan.Ccmp
import LinuxDriver.Wlan.InOrder
import LinuxDriver.Wlan.Tkip
import LinuxDriver.Wlan.TkipFrame
import LinuxDriver.Can.Echo
import LinuxDriver.Can.OneBuffer
import LinuxDriver.Can.Poll
