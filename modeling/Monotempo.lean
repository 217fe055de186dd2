import Monotempo.Block.Builder
import Monotempo.Block.Encode
import Monotempo.Channel.GracePeriod
import Monotempo.Dex.CreditBacking
import Monotempo.Dex.RoundTrip
import Monotempo.Dex.TradePath
import Monotempo.FeeAmm.Accounting
import Monotempo.FeeAmm.Solvency
import Monotempo.Keychain.Lifecycle
import Monotempo.Keychain.Limits
import Monotempo.Keychain.Scopes
import Monotempo.Nonce.ReplayProtection
import Monotempo.Policy.Coherence
import Monotempo.Pool2d.Merge
import Monotempo.Pool2d.Pending
import Monotempo.Replay.ExpiringNonce
import Monotempo.Replay.Gas
import Monotempo.Tip20.Guard
import Monotempo.Tip20.Rewards
import Monotempo.Tip20.Supply
import Monotempo.Token.QuoteGraph
import Monotempo.Validators.History
import Monotempo.Validators.Migration
