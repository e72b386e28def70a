import CiPipeline.Storage.Basic

set_option autoImplicit false

/-! # Disks

A file system in memory: a tree of directories whose leaves are files. Paths are followed
piece by piece from the top directory, which is its own parent. Only two things ever change
a disk: a file is put where there was one or nothing, and an empty directory where there was
nothing.
-/

namespace CiPipeline

open Storage

namespace Disk

/-- The names that lead to a file or directory from the top. -/
abbrev Place := List String

/-- What a file holds: a text, or bytes that are none. -/
inductive Contents where
  | text (s : String)
  | binary (bytes : List UInt8)
  deriving DecidableEq, Inhabited

/-- A file, or a directory with its entries by name. -/
inductive Node where
  | file (c : Contents)
  | directory (entries : List (String × Node))
  deriving Inhabited

namespace Node

/-- What some names lead to. -/
def at? : Place → Node → Option Node
  | [], n => some n
  | _ :: _, file _ => none
  | name :: rest, directory es => (es.lookup name).bind fun n => n.at? rest

/-- The node with something else where some names lead. All but the last of them must lead
to directories. -/
def put (new : Node) : Place → Node → Node
  | [], _ => new
  | _ :: _, file c => file c
  | name :: rest, directory es =>
      match es.lookup name with
      | some n =>
          let changed := put new rest n
          directory (es.map fun e => if e.1 = name then (name, changed) else e)
      | none => if rest = [] then directory (es ++ [(name, new)]) else directory es

/-- The node without what some names lead to. -/
def remove : Place → Node → Node
  | [], n => n
  | _ :: _, file c => file c
  | [name], directory es => directory (es.filter (·.1 ≠ name))
  | name :: rest, directory es =>
      match es.lookup name with
      | some n =>
          let changed := n.remove rest
          directory (es.map fun e => if e.1 = name then (name, changed) else e)
      | none => directory es

end Node

end Disk

/-- The entries of the top directory. -/
structure Disk where
  entries : List (String × Disk.Node)
  deriving Inhabited

namespace Disk

/-- A disk with nothing but the top directory. -/
def empty : Disk := ⟨[]⟩

/-- The top directory. -/
def top (d : Disk) : Node := .directory d.entries

/-- The disk with another top directory. -/
def withTop (d : Disk) : Node → Disk
  | .directory es => ⟨es⟩
  | .file _ => d

/-- What there is at a place. -/
def at? (d : Disk) (place : Place) : Option Node := d.top.at? place

/-- The disk with something else at a place. -/
def put (d : Disk) (place : Place) (n : Node) : Disk := d.withTop (Node.put n place d.top)

/-- The disk without a place and all that is below it. -/
def remove (d : Disk) (place : Place) : Disk := d.withTop (d.top.remove place)

/-! ## Following paths -/

/-- Where a path leads: a place, what looking it up gives, and whether a slash follows its
name. -/
structure Spot where
  place : Place
  found : Except Storage.Error (Option Node)
  slash : Bool

/-- Looks up a name in a directory. -/
def look (d : Disk) (here : Place) (name : String) : Except Storage.Error (Option Node) :=
  if 255 < name.utf8ByteSize then .error .nameTooLong else .ok (d.at? (here ++ [name]))

/-- Follows pieces of a path from a directory. All but the last name must lead to
directories. -/
def walk (d : Disk) (here : Place) : List String → Except Storage.Error Spot
  | [] => .ok ⟨here, .ok (d.at? here), false⟩
  | piece :: rest =>
      if piece = "" ∨ piece = "." then walk d here rest
      else if piece = ".." then walk d here.dropLast rest
      else if rest.all (· == "") then
        .ok ⟨here ++ [piece], d.look here piece, !rest.isEmpty⟩
      else
        match d.look here piece with
        | .ok (some (.directory _)) => walk d (here ++ [piece]) rest
        | .ok (some (.file _)) => .error .notADirectory
        | .ok none => .error .notFound
        | .error e => .error e

/-- The names between the slashes of a path. -/
def names (path : Path) : List String := (Path.pieces path.text.toList).map String.ofList

/-- Where a path leads from the top directory. -/
def find (d : Disk) (path : Path) : Except Storage.Error Spot :=
  if path.text.toList.contains '\x00' then .error .nulInName
  else if path.text = "" then .error .notFound
  else if 4096 ≤ path.text.utf8ByteSize then .error .nameTooLong
  else d.walk [] (names path)

/-! ## Reading and writing -/

/-- The text of the file that a path leads to. -/
def read (d : Disk) (path : Path) : Except Storage.Error String :=
  match d.find path with
  | .error e => .error e
  | .ok spot =>
      match spot.found with
      | .error e => .error e
      | .ok none => .error .notFound
      | .ok (some (.directory _)) => .error .isADirectory
      | .ok (some (.file c)) =>
          if spot.slash then .error .notADirectory
          else match c with
            | .text s => .ok s
            | .binary _ => .error .notText

/-- Puts a file where a path leads. A name with a slash behind it is not even looked up. -/
def write (d : Disk) (path : Path) (c : Contents) : Except Storage.Error Unit × Disk :=
  match d.find path with
  | .error e => (.error e, d)
  | .ok spot =>
      if spot.slash then (.error .isADirectory, d)
      else
        match spot.found with
        | .error e => (.error e, d)
        | .ok (some (.directory _)) => (.error .isADirectory, d)
        | .ok _ => (.ok (), d.put spot.place (.file c))

/-- Makes a directory where a path leads. -/
def makeDirectory (d : Disk) (path : Path) : Except Storage.Error Unit × Disk :=
  match d.find path with
  | .error e => (.error e, d)
  | .ok spot =>
      match spot.found with
      | .error e => (.error e, d)
      | .ok (some _) => (.error .alreadyExists, d)
      | .ok none => (.ok (), d.put spot.place (.directory []))

instance : FileStore (StateM Disk) where
  read path := fun d => (d.read path, d)
  write path text := fun d => d.write path (.text text)
  makeDirectory path := fun d => d.makeDirectory path

/-! ## Listing -/

mutual

/-- What is listed of a node with a label: the contents of a file, and nothing of a directory
but its entries. -/
def Node.listing (label : String) : Node → List (String × Option Contents)
  | .file c => [(label, some c)]
  | .directory es => (label ++ "/", none) :: entriesListing (label ++ "/") es

def entriesListing (lead : String) : List (String × Node) → List (String × Option Contents)
  | [] => []
  | e :: es => e.2.listing (lead ++ e.1) ++ entriesListing lead es

end

/-- All files and directories below the top one, in the order of their labels: the names with
slashes between them, and one at the end of a directory. -/
def listing (d : Disk) : List (String × Option Contents) :=
  (entriesListing "" d.entries).mergeSort fun a b => decide (a.1 ≤ b.1)

end Disk

end CiPipeline
