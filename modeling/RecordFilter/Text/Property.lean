import RecordFilter.Text.Category

/-!
# Binary properties

Properties of Unicode characters beside the general category.

* `isLowercase`, `isUppercase` — letters of one case, and other characters of that form.
* `isEmoji` — characters that have a pictorial form.
-/

namespace RecordFilter.Text

/-! ## Case -/

/-- Characters of lower-case form that are not of category Ll. -/
def otherLowercaseRuns : List CodeRun := [
  ⟨170, 170, 1⟩, ⟨186, 186, 1⟩, ⟨688, 696, 1⟩, ⟨704, 705, 1⟩, ⟨736, 740, 1⟩, ⟨837, 837, 1⟩,
  ⟨890, 890, 1⟩, ⟨4348, 4348, 1⟩, ⟨7468, 7530, 1⟩, ⟨7544, 7544, 1⟩, ⟨7579, 7615, 1⟩,
  ⟨8305, 8305, 1⟩, ⟨8319, 8319, 1⟩, ⟨8336, 8348, 1⟩, ⟨8560, 8575, 1⟩, ⟨9424, 9449, 1⟩,
  ⟨11388, 11389, 1⟩, ⟨42652, 42653, 1⟩, ⟨42864, 42864, 1⟩, ⟨42993, 42996, 1⟩, ⟨43000, 43001, 1⟩,
  ⟨43868, 43871, 1⟩, ⟨43881, 43881, 1⟩, ⟨67456, 67456, 1⟩, ⟨67459, 67461, 1⟩, ⟨67463, 67504, 1⟩,
  ⟨67506, 67514, 1⟩, ⟨122928, 122989, 1⟩]

/-- Characters of upper-case form that are not of category Lu. -/
def otherUppercaseRuns : List CodeRun := [
  ⟨8544, 8559, 1⟩, ⟨9398, 9423, 1⟩, ⟨127280, 127305, 1⟩, ⟨127312, 127337, 1⟩, ⟨127344, 127369, 1⟩]

/-- Whether a character is in one of some runs of code points. -/
def isIn (runs : List CodeRun) (c : Char) : Bool := runs.any fun run => run.contains c.toNat

/-- Whether a character has lower case. -/
def isLowercase (c : Char) : Bool :=
  Category.lowercaseLetter.contains c || isIn otherLowercaseRuns c

/-- Whether a character has upper case. -/
def isUppercase (c : Char) : Bool :=
  Category.uppercaseLetter.contains c || isIn otherUppercaseRuns c

/-! ## Emoji -/

/-- The characters that have a pictorial form. -/
def emojiRuns : List CodeRun := [
  ⟨35, 35, 1⟩, ⟨42, 42, 1⟩, ⟨48, 57, 1⟩, ⟨169, 169, 1⟩, ⟨174, 174, 1⟩, ⟨8252, 8252, 1⟩,
  ⟨8265, 8265, 1⟩, ⟨8482, 8482, 1⟩, ⟨8505, 8505, 1⟩, ⟨8596, 8601, 1⟩, ⟨8617, 8618, 1⟩,
  ⟨8986, 8987, 1⟩, ⟨9000, 9000, 1⟩, ⟨9167, 9167, 1⟩, ⟨9193, 9203, 1⟩, ⟨9208, 9210, 1⟩,
  ⟨9410, 9410, 1⟩, ⟨9642, 9643, 1⟩, ⟨9654, 9654, 1⟩, ⟨9664, 9664, 1⟩, ⟨9723, 9726, 1⟩,
  ⟨9728, 9732, 1⟩, ⟨9742, 9742, 1⟩, ⟨9745, 9745, 1⟩, ⟨9748, 9749, 1⟩, ⟨9752, 9752, 1⟩,
  ⟨9757, 9757, 1⟩, ⟨9760, 9760, 1⟩, ⟨9762, 9763, 1⟩, ⟨9766, 9766, 1⟩, ⟨9770, 9770, 1⟩,
  ⟨9774, 9775, 1⟩, ⟨9784, 9786, 1⟩, ⟨9792, 9792, 1⟩, ⟨9794, 9794, 1⟩, ⟨9800, 9811, 1⟩,
  ⟨9823, 9824, 1⟩, ⟨9827, 9827, 1⟩, ⟨9829, 9830, 1⟩, ⟨9832, 9832, 1⟩, ⟨9851, 9851, 1⟩,
  ⟨9854, 9855, 1⟩, ⟨9874, 9879, 1⟩, ⟨9881, 9881, 1⟩, ⟨9883, 9884, 1⟩, ⟨9888, 9889, 1⟩,
  ⟨9895, 9895, 1⟩, ⟨9898, 9899, 1⟩, ⟨9904, 9905, 1⟩, ⟨9917, 9918, 1⟩, ⟨9924, 9925, 1⟩,
  ⟨9928, 9928, 1⟩, ⟨9934, 9935, 1⟩, ⟨9937, 9937, 1⟩, ⟨9939, 9940, 1⟩, ⟨9961, 9962, 1⟩,
  ⟨9968, 9973, 1⟩, ⟨9975, 9978, 1⟩, ⟨9981, 9981, 1⟩, ⟨9986, 9986, 1⟩, ⟨9989, 9989, 1⟩,
  ⟨9992, 9997, 1⟩, ⟨9999, 9999, 1⟩, ⟨10002, 10002, 1⟩, ⟨10004, 10004, 1⟩, ⟨10006, 10006, 1⟩,
  ⟨10013, 10013, 1⟩, ⟨10017, 10017, 1⟩, ⟨10024, 10024, 1⟩, ⟨10035, 10036, 1⟩, ⟨10052, 10052, 1⟩,
  ⟨10055, 10055, 1⟩, ⟨10060, 10060, 1⟩, ⟨10062, 10062, 1⟩, ⟨10067, 10069, 1⟩, ⟨10071, 10071, 1⟩,
  ⟨10083, 10084, 1⟩, ⟨10133, 10135, 1⟩, ⟨10145, 10145, 1⟩, ⟨10160, 10160, 1⟩, ⟨10175, 10175, 1⟩,
  ⟨10548, 10549, 1⟩, ⟨11013, 11015, 1⟩, ⟨11035, 11036, 1⟩, ⟨11088, 11088, 1⟩, ⟨11093, 11093, 1⟩,
  ⟨12336, 12336, 1⟩, ⟨12349, 12349, 1⟩, ⟨12951, 12951, 1⟩, ⟨12953, 12953, 1⟩, ⟨126980, 126980, 1⟩,
  ⟨127183, 127183, 1⟩, ⟨127344, 127345, 1⟩, ⟨127358, 127359, 1⟩, ⟨127374, 127374, 1⟩,
  ⟨127377, 127386, 1⟩, ⟨127462, 127487, 1⟩, ⟨127489, 127490, 1⟩, ⟨127514, 127514, 1⟩,
  ⟨127535, 127535, 1⟩, ⟨127538, 127546, 1⟩, ⟨127568, 127569, 1⟩, ⟨127744, 127777, 1⟩,
  ⟨127780, 127891, 1⟩, ⟨127894, 127895, 1⟩, ⟨127897, 127899, 1⟩, ⟨127902, 127984, 1⟩,
  ⟨127987, 127989, 1⟩, ⟨127991, 128253, 1⟩, ⟨128255, 128317, 1⟩, ⟨128329, 128334, 1⟩,
  ⟨128336, 128359, 1⟩, ⟨128367, 128368, 1⟩, ⟨128371, 128378, 1⟩, ⟨128391, 128391, 1⟩,
  ⟨128394, 128397, 1⟩, ⟨128400, 128400, 1⟩, ⟨128405, 128406, 1⟩, ⟨128420, 128421, 1⟩,
  ⟨128424, 128424, 1⟩, ⟨128433, 128434, 1⟩, ⟨128444, 128444, 1⟩, ⟨128450, 128452, 1⟩,
  ⟨128465, 128467, 1⟩, ⟨128476, 128478, 1⟩, ⟨128481, 128481, 1⟩, ⟨128483, 128483, 1⟩,
  ⟨128488, 128488, 1⟩, ⟨128495, 128495, 1⟩, ⟨128499, 128499, 1⟩, ⟨128506, 128591, 1⟩,
  ⟨128640, 128709, 1⟩, ⟨128715, 128722, 1⟩, ⟨128725, 128728, 1⟩, ⟨128732, 128741, 1⟩,
  ⟨128745, 128745, 1⟩, ⟨128747, 128748, 1⟩, ⟨128752, 128752, 1⟩, ⟨128755, 128764, 1⟩,
  ⟨128992, 129003, 1⟩, ⟨129008, 129008, 1⟩, ⟨129292, 129338, 1⟩, ⟨129340, 129349, 1⟩,
  ⟨129351, 129535, 1⟩, ⟨129648, 129660, 1⟩, ⟨129664, 129674, 1⟩, ⟨129678, 129734, 1⟩,
  ⟨129736, 129736, 1⟩, ⟨129741, 129756, 1⟩, ⟨129759, 129770, 1⟩, ⟨129775, 129784, 1⟩]

/-- Whether a character has a pictorial form. -/
def isEmoji (c : Char) : Bool := isIn emojiRuns c

end RecordFilter.Text
