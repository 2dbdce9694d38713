import ArithScan.Proofs.Concatenation
import ArithScan.Proofs.Locating
import ArithScan.Proofs.Tokenization

set_option autoImplicit false

namespace ArithScan

end ArithScan
