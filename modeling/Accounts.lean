import Accounts.Main
import Accounts.Proofs.AppendOnly
import Accounts.Proofs.Hash.KeyBytes
import Accounts.Proofs.Hash.Padding
import Accounts.Proofs.Interchange
import Accounts.Proofs.NamelessRows
import Accounts.Proofs.Opening
import Accounts.Proofs.RoundTrip
import Accounts.Proofs.Commuting
import Accounts.Proofs.Sharing
import Accounts.Proofs.SelfChecks
import Accounts.Proofs.Disclosure
import Accounts.Proofs.LongerBackings
import Accounts.Proofs.IssuedIds
import Accounts.Proofs.Overrides
import Accounts.Proofs.ConfigFile
