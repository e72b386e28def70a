import CiPipeline.Yaml.Node.OfTokens
import CiPipeline.Yaml.Token.Scanner

set_option autoImplicit false

/-! # Documents

A text holds at most one document. It may be announced by directives and a marker, and
another marker may end it.
-/

namespace CiPipeline.Yaml

/-- The handles of tags that are known without a directive. -/
def standardHandles : Node.Handles := [("!", .mark), ("!!", .core "")]

/-- The handles that the directives at the front declare, and the tokens after them; `none`
for a version that is not supported and for anything that is declared twice. -/
def directives? (version : Bool) (handles : Node.Handles) :
    List Token → Option (Node.Handles × List Token)
  | .versionDirective major minor :: ts =>
      if version || major ≠ 1 || (minor ≠ 1 && minor ≠ 2) then none
      else directives? true handles ts
  | .tagDirective handle lead :: ts =>
      if (handles.lookup handle).isSome then none
      else directives? version (handles ++ [(handle, lead)]) ts
  | ts => some (handles, ts)

/-- The node after the start of a document, and the tokens after it. -/
def content? (handles : Node.Handles) (ts : List Token) :
    Option (Node × List Token) :=
  match ts with
  | [] | .documentStart :: _ | .documentEnd :: _ | .versionDirective _ _ :: _
  | .tagDirective _ _ :: _ => some (.blank, ts)
  | _ =>
      (Node.node? (handles ++ standardHandles) (2 * ts.length + 2) true false ⟨ts, []⟩).map
        fun (n, r) => (n, r.tokens)

/-- The tokens without markers of a document's end. -/
def skipEnds : List Token → List Token
  | .documentEnd :: ts => skipEnds ts
  | ts => ts

/-- The root of the text's document: `some none` for a text without a document, and `none`
for a text that is no YAML or holds several documents. -/
def root? (cs : List Char) : Option (Option Node) := do
  let tokens ← tokens? cs
  match tokens.toList with
  | [] => some none
  | ts =>
      let (handles, rest) ← directives? false [] ts
      let (node, rest) ←
        if rest.length = ts.length && rest.head? ≠ some .documentStart then
          (Node.node? standardHandles (2 * ts.length + 2) true false ⟨ts, []⟩).map
            fun (n, r) => (n, r.tokens)
        else
          match rest with
          | .documentStart :: rest => content? handles rest
          | _ => none
      if (skipEnds rest).isEmpty then some (some node) else none

end CiPipeline.Yaml
