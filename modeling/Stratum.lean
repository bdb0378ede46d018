import Stratum.Noise.Cert
import Stratum.Noise.Handshake
import Stratum.Noise.Symbolic
import Stratum.Noise.Run
import Stratum.Noise.Complete
import Stratum.Noise.Authentication
import Stratum.Router.Mining
import Stratum.Router.Admissibility
import Stratum.Router.Frame
import Stratum.Proxy.DownstreamMining
import Stratum.Proxy.Shares
import Stratum.Proxy.Connection
import Stratum.Proxy.System
