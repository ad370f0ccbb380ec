import LaneLift.Guest.Table
import LaneLift.Lifting.Selection
import LaneLift.Settings

/-!
# Lifting words

A word is looked up, decoded, checked against the settings and emitted. A block
is a list of words at consecutive addresses; it ends at the first word that
fails, and what was emitted for the words before stays.
-/

namespace LaneLift

open Guest (Address Mnemonic Word)
open Lifting (Emission)

/-- Do the settings allow an instruction class? Bitfield instructions have no
switch. -/
def Settings.allows (settings : Settings) (mnemonic : Mnemonic) : Bool :=
  if mnemonic.isScalar then settings.vfp
  else if mnemonic.isVector then settings.neon
  else true

def liftWord (settings : Settings) (address : Address) (word : Word) : Emission :=
  match Guest.lookup? word with
  | none => .refuse (.unknownInstruction address word)
  | some row =>
      let instruction := row.descriptor.decode address word
      let mnemonic := instruction.mnemonic
      if settings.allows mnemonic then
        let emission := instruction.emission
        { emission with log := .instruction address mnemonic word :: emission.log }
      else
        { log := [.disabled address mnemonic word]
          result := .error (.unsupportedInstruction address word mnemonic) }

/-- The address of a word of the block at an address; addresses wrap around. -/
def wordAddress (address : Address) (index : Nat) : Address :=
  address + BitVec.ofNat 64 (4 * index)

/-- What lifting a block yields: the code of each word in order, each numbered
from zero, the log, and the number of words or the error that ended it. -/
structure Block where
  segments : List Lane.Code := []
  log : List Event := []
  result : Except LiftError Nat

/-- Lift words, the first of which is word `index` of the block at `address`. -/
def liftFrom (settings : Settings) (address : Address) (index : Nat) :
    List Word → Block
  | [] => { log := [.block address index], result := .ok index }
  | word :: rest =>
      let emission := liftWord settings (wordAddress address index) word
      match emission.result with
      | .error error =>
          { segments := [emission.code], log := emission.log, result := .error error }
      | .ok () =>
          let block := liftFrom settings address (index + 1) rest
          { block with
            segments := emission.code :: block.segments
            log := emission.log ++ block.log }

def liftBlock (settings : Settings) (address : Address) (words : List Word) : Block :=
  liftFrom settings address 0 words

end LaneLift
