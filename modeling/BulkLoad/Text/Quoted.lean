import BulkLoad.Text.Mark
import BulkLoad.Text.Unassigned

/-!
A text in double quotes, as it is shown in a log: what cannot be seen is escaped.
-/
namespace BulkLoad.Text

/-- Controls, format characters, private use, and spaces other than the plain one: the general
categories Cc, Cf, Co, Cs, Zl, Zp and Zs. -/
def unseen : Ranges :=
  .ofText
    "0-1F 7F-A0 AD 600-605 61C 6DD 70F 890-891 8E2 1680 180E 2000-200F 2028-202F 205F-2064
     2066-206F 3000 D800-F8FF FEFF FFF9-FFFB 110BD 110CD 13430-1343F 1BCA0-1BCA3 1D173-1D17A
     E0001 E0020-E007F F0000-FFFFD 100000-10FFFD"

/-- Characters besides the nonspacing marks that only extend the one before: with them they are the
property Grapheme_Extend. -/
def extenders : Ranges :=
  .ofText
    "9BE 9D7 B3E B57 BBE BD7 CC0 CC2 CC7-CC8 CCA-CCB CD5-CD6 D3E D57 DCF DDF 1715 1734 1B35
     1B3B 1B3D 1B43-1B44 1BAA 1BF2-1BF3 200C 302E-302F A953 A9C0 FF9E-FF9F 111C0 11235 1133E
     1134D 11357 113B8 113C2 113C5 113C7-113C9 113CF 114B0 114BD 115AF 116B6 11930 1193D 11F41
     16FF0-16FF1 1D165-1D166 1D16D-1D172 E0020-E007F"

/-- Whether a character leaves no mark of its own. -/
def isHidden (c : Char) : Bool :=
  unseen.contains c || isNonspacingMark c || extenders.contains c || unassigned.contains c

def quotedChar (c : Char) : List Char :=
  if c = '"' then ['\\', '"']
  else if c = '\\' then ['\\', '\\']
  else if c = '\n' then ['\\', 'n']
  else if c = '\r' then ['\\', 'r']
  else if c = '\t' then ['\\', 't']
  else if c = '\x00' then ['\\', '0']
  else if isHidden c then ['\\', 'u', '\x7b'] ++ Nat.toDigits 16 c.toNat ++ ['\x7d']
  else [c]

def quoted (s : String) : String :=
  String.ofList ('"' :: s.toList.flatMap quotedChar ++ ['"'])

/-- Texts in quotes between brackets. -/
def quotedList (all : List String) : String := "[" ++ ", ".intercalate (all.map quoted) ++ "]"

end BulkLoad.Text
