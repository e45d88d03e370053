import Invocation.Terminal.EmojiNames
import Invocation.Text.Blank
import Invocation.Text.LowerCase

/-!
# Emoji codes

A name between two colons stands for an emoji. Behind the name there may be a word that asks for its plain or for its
coloured form.
-/

namespace Invocation

namespace Terminal

/-- What follows `name` in a list of names and what they stand for. -/
def named? (name : Text) : List Text → Option Text
  | n :: e :: r => if n = name then some e else named? name r
  | _ => none

/-- Names and emoji in turn. A name stands between colons, so that no entry of the list has one. -/
def emojiWords : List Text :=
  (Text.splitAll (fun c => c.isBlank || c = ':') emojiNames).filter fun word => !word.isEmpty

def emoji? (name : Text) : Option Text := named? name emojiWords

/-- What is written behind an emoji to choose its form. -/
def forms : List (Text × Text) :=
  [("-emoji:", "\uFE0F"), ("-text:", "\uFE0E"), (":", "")]

/-- The name and the form that a code goes on with, and how many code points it takes from here on. -/
def codeEnd? (name : Text) (length : Nat) : Text → Option (Text × Text × Nat)
  | [] => none
  | c :: r =>
    match forms.find? fun f => Text.startsWith (c :: r) f.1 with
    | some (ending, form) => some (name, form, length + ending.length)
    | none => if c.isBlank then none else codeEnd? (name ++ [c]) (length + 1) r

/-- The emoji for a code, or the code itself if no emoji has its name. -/
def emojiOrCode (code name form : Text) : Text := ((emoji? name.lower).map (· ++ form)).getD code

/-- The text with emoji instead of their codes, after `skip` code points that are used up. -/
def replaceCodes (skip : Nat) : Text → Text
  | [] => []
  | c :: r =>
    match skip with
    | skip + 1 => replaceCodes skip r
    | 0 =>
      match if c = ':' then codeEnd? [] 0 r else none with
      | some (name, form, length) => emojiOrCode (c :: r.take length) name form ++ replaceCodes length r
      | none => c :: replaceCodes 0 r

def withEmoji (t : Text) : Text := replaceCodes 0 t

end Terminal

end Invocation
