import ProviderOrchard.GoString
import ProviderOrchard.WsNetConn
import ProviderOrchard.Options
import ProviderOrchard.Truncate
import ProviderOrchard.VmResource
import ProviderOrchard.Observe
import ProviderOrchard.CloudInit
import ProviderOrchard.Deletion
import ProviderOrchard.ConditionMessage
import ProviderOrchard.ReadyCondition
import ProviderOrchard.ShellLexer
import ProviderOrchard.Script
import ProviderOrchard.ExternalName
import ProviderOrchard.Session
import ProviderOrchard.NetUrl
import ProviderOrchard.HierarchicalUrl
import ProviderOrchard.Tunnel
import ProviderOrchard.SessionErrors
import ProviderOrchard.RemoteFiles
import ProviderOrchard.Part000
import ProviderOrchard.Json.Scanner
import ProviderOrchard.Json.Strings
import ProviderOrchard.Json.Unmarshal
import ProviderOrchard.Json.RoundTrip
import ProviderOrchard.Json.ScannerRuns
import ProviderOrchard.Json.DecoderSync
import ProviderOrchard.Connect
import ProviderOrchard.Json.DocumentScan
import ProviderOrchard.Json.DocumentDecode
