/-!
# Characters of a document

Character data and attribute values are made of these characters. Controls are shut out, tab, line
feed and carriage return apart, and so are the two noncharacters `FFFE` and `FFFF`.
-/

namespace Discovery.Markup

/-- May the character stand in a document? -/
def isMarkupChar (c : Char) : Bool :=
  c = '\t' || c = '\n' || c = '\r' || (' ' ≤ c && c ≠ '\ufffe' && c ≠ '\uffff')

end Discovery.Markup
