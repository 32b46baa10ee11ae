import DecompileServer.Program.Call
import DecompileServer.Program.Script

/-!
# Channels

A descriptor leads to a channel: a text to be read, a text that is being written, a file with a place
in it, or nothing. Several descriptors may lead to one channel, which is why channels are kept in a
table and descriptors hold their numbers.
-/
namespace DecompileServer.Program

open Disk (Location)

/-- What a descriptor leads to. -/
inductive Channel where
  /-- A text, of which this is left. -/
  | source (rest : String)
  /-- A text that has been written so far. -/
  | sink (written : String)
  /-- A file and the place reached in it. -/
  | file (location : Location) (place : Nat) (opening : Opening)
  /-- Nothing: what is written is lost, and there is nothing to read. -/
  | nowhere

/-- The channels, and where descriptors lead. -/
structure Channels where
  /-- The channels that have been opened. -/
  table : Array Channel
  /-- The descriptors with the numbers of their channels. -/
  descriptors : List (Nat × Nat)

namespace Channels

/-- The channel that a descriptor leads to. -/
def at? (channels : Channels) (descriptor : Nat) : Option (Nat × Channel) := do
  let index ← channels.descriptors.lookup descriptor
  let channel ← channels.table[index]?
  pure (index, channel)

/-- Lets a descriptor lead to the channel of a number, or nowhere at all. -/
def lead (channels : Channels) (descriptor : Nat) (index : Option Nat) : Channels :=
  let others := channels.descriptors.filter fun entry => entry.1 ≠ descriptor
  { channels with
    descriptors := match index with
      | some index => (descriptor, index) :: others
      | none => others }

/-- Opens a channel for a descriptor. -/
def openFor (channels : Channels) (descriptor : Nat) (channel : Channel) : Channels :=
  let index := channels.table.size
  { channels with table := channels.table.push channel }.lead descriptor (some index)

/-- Puts a channel in the place of another one. -/
def put (channels : Channels) (index : Nat) (channel : Channel) : Channels :=
  { channels with table := channels.table.setIfInBounds index channel }

/-- Content with a text in it from a place on. -/
def overwritten (content : List UInt8) (place : Nat) (text : List UInt8) : List UInt8 :=
  let front := content.take place
  front ++ List.replicate (place - front.length) 0 ++ text ++ content.drop (place + text.length)

/-- Writes to a descriptor; `none` if nothing can be written to it. -/
def write? (channels : Channels) (host : Host) (descriptor : Nat) (text : String) :
    Option (Channels × Host) :=
  match channels.at? descriptor with
  | none => none
  | some (_, .source _) => none
  | some (_, .nowhere) => some (channels, host)
  | some (index, .sink written) =>
    -- The old text leaves the table first, so that it is not copied.
    some ((channels.put index .nowhere).put index (.sink (written ++ text)), host)
  | some (index, .file location place opening) =>
    match opening, host.tree.find? location with
    | .read, _ => none
    | _, some (.file content executable) =>
      let place := if opening = .append then content.length else place
      let bytes := toOctets text.toList
      let node := Disk.Node.file (overwritten content place bytes) executable
      some (channels.put index (.file location (place + bytes.length) opening),
        { host with tree := host.tree.put location node })
    | _, _ => some (channels, host)

/-- What is left to read at a descriptor; `none` if nothing can be read from it. -/
def rest? (channels : Channels) (host : Host) (descriptor : Nat) : Option String :=
  match channels.at? descriptor with
  | none | some (_, .sink _) => none
  | some (_, .source rest) => some rest
  | some (_, .nowhere) => some ""
  | some (_, .file location place opening) =>
    match opening, host.tree.find? location with
    | .write, _ | .overwrite, _ | .append, _ => none
    | _, some (.file content _) => some (String.ofList (ofOctets (content.drop place)))
    | _, _ => some ""

/-- Passes over octets at a descriptor. -/
def pass (channels : Channels) (descriptor count : Nat) : Channels :=
  match channels.at? descriptor with
  | some (index, .source rest) => channels.put index (.source (String.ofList (rest.toList.drop count)))
  | some (index, .file location place opening) =>
    channels.put index (.file location (place + count) opening)
  | _ => channels

/-- Whether a descriptor leads to a file. -/
def isFile (channels : Channels) (descriptor : Nat) : Bool :=
  match channels.at? descriptor with
  | some (_, .file ..) => true
  | _ => false

/-- What has been written to the channel of a number. -/
def writtenTo (channels : Channels) (index : Nat) : String :=
  match channels.table[index]? with
  | some (.sink written) => written
  | _ => ""

end Channels

end DecompileServer.Program
