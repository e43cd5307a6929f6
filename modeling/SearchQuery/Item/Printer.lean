import SearchQuery.Item.Basic
import SearchQuery.Token.Basic

/-!
# Writing items

Items are written so that they read back: one blank between items, keywords in capitals, and
quotes around values whose text is no bare word.
-/

namespace SearchQuery.Item

/-- The text of a value, in quotes unless it is a bare word. -/
def printValue (v : Value) : String :=
  if Text.isBareWord v.text then v.text else Text.Escape.quote v.text

mutual

/-- An item as query text. -/
def print : Item → String
  | null _ => Text.Keyword.null.text
  | infinity _ => ""
  | wildcard _ => Sign.wildcard.symbol
  | anyChar _ => Sign.anyChar.symbol
  | word _ text => text
  | quote _ text => Text.Escape.quote text
  | value _ v => printValue v
  | pin _ target => Sign.pin.symbol ++ target.print
  | pair _ key v => key.print ++ Sign.colon.symbol ++ v.print
  | compare _ op operand => op.symbol ++ operand.print
  | range _ start stop => start.print ++ Sign.dots.symbol ++ stop.print
  | list _ items => printAll Sign.comma.symbol items
  | group _ items => "(" ++ printAll " " items ++ ")"
  | pattern _ pieces => printAll "" pieces
  | and _ left right => left.print ++ " " ++ Text.Keyword.and.text ++ " " ++ printAll " " right
  | or _ left right => left.print ++ " " ++ Text.Keyword.or.text ++ " " ++ printAll " " right
  | not _ operand => Text.Keyword.not.text ++ " " ++ operand.print

/-- Items with a separator between them. -/
def printAll (separator : String) : List Item → String
  | [] => ""
  | [item] => item.print
  | item :: items => item.print ++ separator ++ printAll separator items

end

end SearchQuery.Item
