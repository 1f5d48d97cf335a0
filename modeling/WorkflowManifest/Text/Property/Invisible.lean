import WorkflowManifest.Text.Property.Marks

namespace WorkflowManifest.Text.CodeSet

def bidiControl : CodeSet :=
  .ofLines ["61C 200E-200F 202A-202E 2066-2069"]

def variationSelector : CodeSet :=
  .ofLines ["180B-180D 180F FE00-FE0F E0100-E01EF"]

def noncharacter : CodeSet :=
  .ofLines
    ["FDD0-FDEF FFFE-FFFF 1FFFE-1FFFF 2FFFE-2FFFF 3FFFE-3FFFF 4FFFE-4FFFF 5FFFE-5FFFF",
     "6FFFE-6FFFF 7FFFE-7FFFF 8FFFE-8FFFF 9FFFE-9FFFF AFFFE-AFFFF BFFFE-BFFFF CFFFE-CFFFF",
     "DFFFE-DFFFF EFFFE-EFFFF FFFFE-FFFFF 10FFFE-10FFFF"]

def deprecated : CodeSet :=
  .ofLines ["149 673 F77 F79 17A3-17A4 206A-206F 2329-232A E0001"]

def otherDefaultIgnorable : CodeSet :=
  .ofLines
    ["34F 115F-1160 17B4-17B5 2065 3164 FFA0 FFF0-FFF8 E0000 E0002-E001F E0080-E00FF",
     "E01F0-E0FFF"]

def defaultIgnorable : CodeSet :=
  (.categories [.format] ∪ variationSelector ∪ otherDefaultIgnorable) \
    (.ofLines ["FFF9-FFFB 13430-13440"] ∪ prependedConcatenationMark)

end WorkflowManifest.Text.CodeSet
