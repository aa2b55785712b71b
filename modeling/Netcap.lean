import Netcap.GoMap
import Netcap.GoSort
import Netcap.Profile.Registry
import Netcap.Profile.Create
import Netcap.Profile.Summary
import Netcap.Reassembly.Conversation
import Netcap.Reassembly.Connection
import Netcap.Reassembly.Race
import Netcap.Reassembly.Direction
import Netcap.Reassembly.Roles
import Netcap.Reassembly.Accept
import Netcap.Reassembly.Lifecycle
import Netcap.Reassembly.Packet
import Netcap.HTTP.Flush
import Netcap.HTTP.Decode
import Netcap.Writer
