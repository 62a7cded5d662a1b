import Qsgw.Prelude
import Qsgw.Decimal
import Qsgw.Catalog
import Qsgw.Crypto.MlKem
import Qsgw.Crypto.MlDsa
import Qsgw.Crypto.SlhDsa
import Qsgw.Crypto.Hybrid
import Qsgw.Crypto.Contract
import Qsgw.Crypto.Render
import Qsgw.Crypto.Rng
import Qsgw.Gateway.Uri
import Qsgw.Gateway.Proxy
import Qsgw.Tls.Config
import Qsgw.Gateway.Policy
