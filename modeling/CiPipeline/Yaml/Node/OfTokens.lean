import CiPipeline.Yaml.Node
import CiPipeline.Yaml.Token

set_option autoImplicit false

/-! # From tokens to nodes

The grammar of YAML over tokens. Where a node may be missing it is a blank scalar. An anchor
gets a number where its node starts: the number of different names of anchors before it. A
reference has the number that its name stands for at that place.
-/

namespace CiPipeline.Yaml

namespace Node

/-- The tokens that are left, and the numbers of the anchors named so far. -/
structure Reading where
  tokens : List Token
  anchors : List (String × Nat)

namespace Reading

/-- The next token. -/
def next? (r : Reading) : Option Token := r.tokens.head?

/-- Without the next token. -/
def skip (r : Reading) : Reading := { r with tokens := r.tokens.tail }

/-- The next token is one of these, or there is none. -/
def atOneOf (r : Reading) (ts : List Token) : Bool :=
  match r.tokens with
  | t :: _ => ts.contains t
  | [] => true

/-- A name gets a number. -/
def name (r : Reading) (anchor : String) : Nat × Reading :=
  let others := r.anchors.filter fun a => a.1 != anchor
  (r.anchors.length, { r with anchors := (anchor, r.anchors.length) :: others })

end Reading

/-- What may stand before a node. -/
structure Properties where
  anchor : Option String
  tag : Option Tag

/-- The tags that handles stand for. -/
abbrev Handles := List (String × Tag)

/-- The tag of a handle and a suffix. -/
def resolveTag? (handles : Handles) (handle : String) (suffix : Tag) : Option Tag :=
  if handle.isEmpty then some suffix else (handles.lookup handle).map (·.append suffix)

/-- An anchor and a tag, in any order; `none` if the tag's handle is unknown. -/
def properties? (handles : Handles) (r : Reading) :
    Option (Properties × Reading) :=
  match r.tokens with
  | .anchor a :: .tag h s :: rest =>
      (resolveTag? handles h s).map fun t => (⟨some a, some t⟩, { r with tokens := rest })
  | .tag h s :: .anchor a :: rest =>
      (resolveTag? handles h s).map fun t => (⟨some a, some t⟩, { r with tokens := rest })
  | .anchor a :: rest => some (⟨some a, none⟩, { r with tokens := rest })
  | .tag h s :: rest =>
      (resolveTag? handles h s).map fun t => (⟨none, some t⟩, { r with tokens := rest })
  | _ => some (⟨none, none⟩, r)

/-- A node with its mark, if it has one, where its content starts. -/
def mark? (p : Properties) (r : Reading) (content : Reading → Option (Node × Reading)) :
    Option (Node × Reading) :=
  match p.anchor with
  | none => content r
  | some a =>
      let (n, r) := r.name a
      (content r).map fun (node, r) => (.anchored n node, r)

mutual

/-- A node. `block` says that block collections may start here, and `hanging` that the items
of a list may stand here without being indented. -/
def node? (handles : Handles) (fuel : Nat) (block hanging : Bool) (r : Reading) :
    Option (Node × Reading) :=
  match fuel with
  | 0 => none
  | fuel + 1 =>
      match r.tokens with
      | .reference a :: rest =>
          (r.anchors.lookup a).map fun n => (.reference n, { r with tokens := rest })
      | _ => do
          let (p, r) ← properties? handles r
          let hasNone := p.anchor.isNone && p.tag.isNone
          match r.next? with
          | some (.scalar text style) =>
              mark? p r fun r => some (.scalar ⟨text, style, p.tag⟩, r.skip)
          | some .flowSequenceStart =>
              mark? p r fun r =>
                (flowItems? handles fuel true r.skip).map fun (ns, r) => (.sequence p.tag ns, r)
          | some .flowMappingStart =>
              mark? p r fun r =>
                (flowEntries? handles fuel true r.skip).map fun (es, r) => (.mapping p.tag es, r)
          | some .blockEntry =>
              if hanging then
                mark? p r fun r =>
                  (hangingItems? handles fuel r).map fun (ns, r) => (.sequence p.tag ns, r)
              else if hasNone then none
              else mark? p r fun r => some (.scalar ⟨"", .plain, p.tag⟩, r)
          | some .blockSequenceStart =>
              if block then
                mark? p r fun r =>
                  (blockItems? handles fuel r.skip).map fun (ns, r) => (.sequence p.tag ns, r)
              else if hasNone then none
              else mark? p r fun r => some (.scalar ⟨"", .plain, p.tag⟩, r)
          | some .blockMappingStart =>
              if block then
                mark? p r fun r =>
                  (blockEntries? handles fuel r.skip).map fun (es, r) => (.mapping p.tag es, r)
              else if hasNone then none
              else mark? p r fun r => some (.scalar ⟨"", .plain, p.tag⟩, r)
          | _ =>
              if hasNone then none
              else mark? p r fun r => some (.scalar ⟨"", .plain, p.tag⟩, r)

/-- The items of an indented list, up to its end. -/
def blockItems? (handles : Handles) (fuel : Nat) (r : Reading) :
    Option (List Node × Reading) :=
  match fuel with
  | 0 => none
  | fuel + 1 =>
      match r.tokens with
      | .blockEnd :: _ => some ([], r.skip)
      | .blockEntry :: _ => do
          let (n, r) ←
            if r.skip.atOneOf [.blockEntry, .blockEnd] then some (blank, r.skip)
            else node? handles fuel true false r.skip
          let (ns, r) ← blockItems? handles fuel r
          some (n :: ns, r)
      | _ => none

/-- The items of a list that is not indented. -/
def hangingItems? (handles : Handles) (fuel : Nat) (r : Reading) :
    Option (List Node × Reading) :=
  match fuel with
  | 0 => none
  | fuel + 1 =>
      match r.tokens with
      | .blockEntry :: _ => do
          let (n, r) ←
            if r.skip.atOneOf [.blockEntry, .key, .value, .blockEnd] then some (blank, r.skip)
            else node? handles fuel true false r.skip
          let (ns, r) ← hangingItems? handles fuel r
          some (n :: ns, r)
      | _ => some ([], r)

/-- The entries of an indented map, up to its end. -/
def blockEntries? (handles : Handles) (fuel : Nat) (r : Reading) :
    Option (List (Node × Node) × Reading) :=
  match fuel with
  | 0 => none
  | fuel + 1 =>
      match r.tokens with
      | .blockEnd :: _ => some ([], r.skip)
      | .key :: _ => do
          let (k, r) ←
            if r.skip.atOneOf [.key, .value, .blockEnd] then some (blank, r.skip)
            else node? handles fuel true true r.skip
          let (v, r) ← match r.tokens with
            | .value :: _ =>
                if r.skip.atOneOf [.key, .value, .blockEnd] then some (blank, r.skip)
                else node? handles fuel true true r.skip
            | _ => some (blank, r)
          let (es, r) ← blockEntries? handles fuel r
          some ((k, v) :: es, r)
      | _ => none

/-- The items of a list in brackets, up to the closing one. An item with the sign of a key,
or with a simple key, is a map of one entry. -/
def flowItems? (handles : Handles) (fuel : Nat) (first : Bool) (r : Reading) :
    Option (List Node × Reading) :=
  match fuel with
  | 0 => none
  | fuel + 1 =>
      match r.tokens with
      | .flowSequenceEnd :: _ => some ([], r.skip)
      | t :: _ => do
          if !first && t ≠ .flowEntry then none
          let r := if first then r else r.skip
          match r.tokens with
          | .flowSequenceEnd :: _ => some ([], r.skip)
          | .key :: _ =>
              let (k, r) ←
                if r.skip.atOneOf [.value, .flowEntry, .flowSequenceEnd] then
                  some (blank, r.skip.skip)
                else node? handles fuel false false r.skip
              let (v, r) ← match r.tokens with
                | .value :: _ =>
                    if r.skip.atOneOf [.flowEntry, .flowSequenceEnd] then some (blank, r.skip)
                    else node? handles fuel false false r.skip
                | _ => some (blank, r)
              let (ns, r) ← flowItems? handles fuel false r
              some (.mapping none [(k, v)] :: ns, r)
          | _ =>
              let (n, r) ← node? handles fuel false false r
              let (ns, r) ← flowItems? handles fuel false r
              some (n :: ns, r)
      | [] => none

/-- The entries of a map in brackets, up to the closing one. -/
def flowEntries? (handles : Handles) (fuel : Nat) (first : Bool) (r : Reading) :
    Option (List (Node × Node) × Reading) :=
  match fuel with
  | 0 => none
  | fuel + 1 =>
      match r.tokens with
      | .flowMappingEnd :: _ => some ([], r.skip)
      | t :: _ => do
          if !first && t ≠ .flowEntry then none
          let r := if first then r else r.skip
          match r.tokens with
          | .flowMappingEnd :: _ => some ([], r.skip)
          | .key :: _ =>
              let (k, r) ←
                if r.skip.atOneOf [.value, .flowEntry, .flowMappingEnd] then some (blank, r.skip)
                else node? handles fuel false false r.skip
              let (v, r) ← match r.tokens with
                | .value :: _ =>
                    if r.skip.atOneOf [.flowEntry, .flowMappingEnd] then some (blank, r.skip)
                    else node? handles fuel false false r.skip
                | _ => some (blank, r)
              let (es, r) ← flowEntries? handles fuel false r
              some ((k, v) :: es, r)
          | _ =>
              let (k, r) ← node? handles fuel false false r
              let (es, r) ← flowEntries? handles fuel false r
              some ((k, blank) :: es, r)
      | [] => none

end

end Node

end CiPipeline.Yaml
