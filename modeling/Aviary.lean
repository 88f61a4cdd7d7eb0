import Aviary.Util.Status
import Aviary.Util.StatusEncoding
import Aviary.Util.PeriodicFunction
import Aviary.Util.UnusedPort
import Aviary.Proto.Double
import Aviary.Proto.Messages
import Aviary.Function.Interface
import Aviary.Function.BiddingFunction
import Aviary.Function.SapiAdapter
import Aviary.Function.SapiBiddingFunction
import Aviary.Server.FunctionRepository
import Aviary.Server.Configuration
import Aviary.Server.FunctionSource
import Aviary.Server.YamlConfiguration
import Aviary.Std.Sort
import Aviary.Std.Sorted
import Aviary.Server.RunAdAuction
import Aviary.Server.Interleaving
