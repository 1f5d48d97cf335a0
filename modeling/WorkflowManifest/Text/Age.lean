import WorkflowManifest.Text.Run

namespace WorkflowManifest.Text

structure Version where
  major : Nat
  minor : Nat
  letter : Char
  deriving DecidableEq

instance : Hashable Version where
  hash v := hash (v.major, v.minor, v.letter.toNat)

namespace Version

def all : List Version :=
  [⟨1, 1, 'A'⟩, ⟨2, 0, 'B'⟩, ⟨2, 1, 'C'⟩, ⟨3, 0, 'D'⟩, ⟨3, 1, 'E'⟩, ⟨3, 2, 'F'⟩, ⟨4, 0, 'G'⟩,
   ⟨4, 1, 'H'⟩, ⟨5, 0, 'I'⟩, ⟨5, 1, 'J'⟩, ⟨5, 2, 'K'⟩, ⟨6, 0, 'L'⟩, ⟨6, 1, 'M'⟩, ⟨6, 2, 'N'⟩,
   ⟨6, 3, 'O'⟩, ⟨7, 0, 'P'⟩, ⟨8, 0, 'Q'⟩, ⟨9, 0, 'R'⟩, ⟨10, 0, 'S'⟩, ⟨11, 0, 'T'⟩, ⟨12, 0, 'U'⟩,
   ⟨12, 1, 'V'⟩, ⟨13, 0, 'W'⟩, ⟨14, 0, 'X'⟩, ⟨15, 0, 'Y'⟩, ⟨15, 1, 'Z'⟩, ⟨16, 0, 'a'⟩]

def names (v : Version) : List String :=
  [toString v.major ++ "." ++ toString v.minor, "v" ++ toString v.major ++ toString v.minor]

def runs : List Run :=
  Run.ofLines
    ["A502D4A30D8FGD18G3H11I14A89D5G2A47DA10D5G17A70D9FG8H5G3A2DF13J4A2J2z2AI3APz4A7zAzA20zA44J",
     "A7DF2ADADADADA18E2FG5H4DA12DA66DA12DA41JD2F2D4A53F2A2F2A2F2IA28D2A8H2A2I6F16I4J16K2L2P8z",
     "A38z2A7TA39TADz2P2MzB17HB13A10IA9BH3z8A27z4TA5z11G4MPJ5HAG9J5AOXHALA26J5A19D3G3H6LA14F2",
     "A72D2A5DA15DA30G2A10D5GD14zD30G3D27z2G3H30J18D49Fz14I59z2T3K46z2K15zL28z2LzS11z5X31zX2z5a",
     "X8MPM11P6Q2XR8W10X11TR15QM27PKA3GA53L2A18KLA5KL2A25J2L5PK2I2HI2PA3zA8z2A2z2A22zA7zAz3A4z2",
     "AGA7z2A2z2A3Hz8Az4A2zA5z2A21KS2Tz2GAGzA6z4A2z2A22zA7zA2zA2zA2z2AzA5z4A2z2A3z3Jz7A4zAz7A15",
     "JTz10A3zA7GAzA3zA22zA7zA2zA5z2A10zA3zA3z2Az15AG3z2A10MGz7QS6zA3zA8z2A2z2A22zA7zA2zGA4z2A8",
     "Jz2A2z2A3z7WA2z4A2zA3J2z2A11GL6z10A2zA6z3A3zA4z3A2zAzA2z3A2z3A3z3A8HA3z4A5z3A3zA4z2Jz6A",
     "z14HA12G8z5PA3TA8zA3zA23zA10PA5z2XJA7zA3zA4z7A2zJ2Qz2Xz2A2J2z2A10z7UJ8RPA2TA8zA3zA23zA10z",
     "A5z2G2A7zA3zA4z7A2z6XAzA2I2z2A10zI2Yz12SPA2WA8zA3zA23LA16LS2JA6JzA3zA4LRz4R3AR7QA2J2z2A10",
     "J6R3J7zWD2zD18z3D24zD9zDz2D7z3Dz4D6zDzD8z6P10z2D3z12A58z4A29z37A2zAzUA2UAzUAU6A4UA7UA3zAz",
     "AU2A2UA13UA3z2A5zAzA6YzA10z2A2M2z32B72zB33DJ2z4B27L4B6DBzB21D3B7DBD3zD15zJDH2J3K4L2z37D34",
     "JD5JD2JD7J3D4J6D26J64K4J2A38zMz5Mz2A39F2H2AHM3A90K5A68K5A82K6D7HD63HDzD4z2D7zDzD4z2D39HDz",
     "D4z2D31HDzD4z2D7zDzD4z2D7HD7zD23HD31HDzD4z2D7HD39HD19z2L2H2D28z3H26z6D85Qz2Q6z2KD630K9D29",
     "z3D81P8z7F13XF7Xz9XF23z9F20z12F13zF3zF2z12D93Gz2D10z6G10z6D15XD10z6D88Tz7D42Jz5K70z10G29",
     "P2zG12z4G12z4Gz3G42z2G5z11H42K2z4H26z6H10Kz3H2G32H28z2H2K63zK29z2K11z6K10z6K14z2P15W2X14",
     "z49I76Xza2I45X2aJ43M3J12M6L52z8L4J56z3J15z3J51R9a2z5T43z2T3M8z8K35M4SP2Uz5G108H88I7J28P15",
     "S4XRLKI2A155BJ4A90J6A22z2A6z2A38z2A6z2A8zAzAzAzA31z2A53zA15zA14z2A6zA19z2A3zA9zA47DA23FD6",
     "F5G2H2FH7F5JzO4A7Fz2A27zH5L8z3A11BCD3F2H4K3LNP3QSXz15A18D2F7HI4Jz15A57D2GHF15HI2JK3A48DI",
     "J4KQ2z4A91D9F12A242F14ADA121DFD30F52G2H11I12KL11P7R4SA37D2a3z22A11z21A139F20GA150F10A80D8",
     "F8A20G2F2HDA86D2F12H2F10G8H11JK2G2H16IJ10K3J4K10LK19LKL4K24PA4LA4L2A28LA35LALA4L3AKA7L2A7",
     "F14A31L3A24LA14LH7I4MJML2F28J4F16D256F512G14H6I7J5I4J41P3J5K5P26z2P32zWP34T3P12UP8ST25Q4",
     "T15UH47XH47XI13J3KJ3I4J6K2H107K7M2z5H45zMz5Mz2H54M2z7HLz14LH23z9H7zH7zH7zH7zH7zH7zH7zH7z",
     "J32H24J4H2J19KM10P7R2S5T5UW3X11z34D26zD89z12D214z26D12Z4A56D3F3DAzA84F2z2A6F2A94Fz5A40JST",
     "zA94zA16D24L3W5H16J20a2z9ZF16A29G2zA36K12GF15A28G2HA50F15A12G4A47VA119G4A99G2A31GD6582W10",
     "G64A20902H22J8K8MQ9S21T5W13X3D1165z3D18F2D16FD12FD3FDz9K48J300z20J32L2J18M8J28P6QMK88z8",
     "H23I4J5I2J107L2QL2M2P12L10MP3RTP2Q6T2U6X2U5W4a3z2X2zXzX5a3z21X3W2PM2LJ5H44Wz3K10z6I56z8",
     "J69Rz8J12z6K28Q2T2J84z11JK29z3K78zK11z4K2P31zJ55z9J14z2J10z2J4K28P4K67z24K5M23z10L6z2L6z2",
     "L6z9L7zL7zP48Q4P2U2W4z4Q80K46z2K10z6B11172z12K23z4K49z2052A6702M2F59K3z2H106z38A7z12A5z5D",
     "A25zA5zAzA2zA2zA108L16Xz16A365X16A64z2A54z7XE32A12FGX2F16H10z6A4J3P7Q2A21F2G2A10zA19zA4z4",
     "A3FAzA135z2AzA94F2A94z3A6z2A6z2A6z2A3z3A7zA7z10D3CA3G12zG26zG19zG2zG15z2G14z34G123z5G3z4",
     "G45z3G9H75P2R2zJ12Wz3Pz47J46z130J29z3J49z15P28z4E31PE4z9S3E27z5P43z5G30zGH36z4H14z42E38G2",
     "E38G80z2G10z6R36z4R36z4P40z8P52z11PX11zX15zX7zX2zX11zX15zX7zX2z3a52z12P311z9P22z10P8z24X6",
     "zX42zX9z69G6z2GzG44zG2z3Gz2GK22zK9P63z8P9z48Q19zQ2z5Q5I26K2z3IJ26z5Jz64M56z4Q2M2Q16z2Q46",
     "H4zH2z5H8zH3zH27T2z2H3z4H9Tz7H9z7K32P32z32P39z4P12z9K54z3K29z2K27z5K8P18z7P4z12P7z80K73",
     "z55Q51z13Q51z7Q6T40z8T10z6a38z3a29z8a2z208K31zW42zW3z2W2z16a3z55aY3T40z8T42z22X26z38W28",
     "z20U23z9L78z4L30X6z9PK66Xz10Tz2M25z7M10z6M53zM14T3Wz8P39z9M73Q4PW2M10PQ5zP20z11P18zP43RY3",
     "z62Q7zQzQ4zQ15zQ11z6P59z5P10z6QP3zP8z2P2z2P22zP7zP2zP5zTP9z2P2z2P3z2Qz6Pz5P7z2P7z3P5z11",
     "a10zaz2aza38za10zaz2aza4za10za2z8a2z29R90WRzRTUW2z30P72z8P10z166P54z2P18Q20z34P69z11P10z6",
     "R13z19M56UXz6M10z6a20z28Q26Tz2Q15z4Q16X7z185T60z100P83z12PW7z2Wz2W8zW2zW30zW2z2W12z9W10",
     "z70U8z2U46z2U11z27S72z8S52U2S23TS5z13X16P57z7Y10z182a34z14a10z6R9zR45zR14z10R29z3R32z2R22",
     "zR14z73S7zS2zS44z3SzS2zS9z8S10z6T6zT2zT37zT2zT6z7T10z310T25z7Y17zY41z3Y28az85Wz15U50z13U",
     "I879P42Qz102I99P12zI4Pz11Q196z2636X99z13K1071YU9Y29z10a3995z5Q583z6841a58z1734L569z7P31z",
     "P10z4P2X79zX10z6P30z2P6z10P70z10P10zP7zP21z5P19z432a58z198T91z101M69U6z4UM47U9z7M17z64RS",
     "U2Wz11W2z14R6125T5U6z8R755W483z41aW9z8935X4zX7zX2zL2S285X4z15Yz29U3z2Yz14U4z8S396z2308",
     "P107z5P13z3P9z7P10z2P8z3932a250z6a436z76X46z2X23z9X116z60E246z10E39z2JE180Q11X2z21H70z122",
     "Y20z12T20z12G87z9I18T7z135E85zE71zE2z2Ez2E2z2E4zE12zEzE4GE2zE65zE4z2E8zE7zE28zE4zE5zEz3E7",
     "zE338H2z2E290I2z2E50Q652z15Q5zQ15z1104X31z6Y6z213R7zR17z2R7zR2zR5z5Y62z33Yz112U45z3U14z2",
     "U10z4U2z320X31z17U58z5Uz464Y42z214a43z4az480X7zX4zX2zX15zP197z2P16z41R75Uz4R10z4R2z785T68",
     "z76U61z194M4zM27zM2zMz2MzM10zM4zMzMz6Mz4MzMzMzM3zM2zMz2MzMzMzMzMzM2zMz2M4zM7zM4zM4zMzM10z",
     "M17z5M3zM5zM17z52M2z270J44z4J100z12L15z2L14PzL15zL15P22z10K11P2W3K31TLKL11KLKL2KL3KL3K5L8",
     "KL7KL10M2UW3L9KLK2L2KL10K4L2KL10R18Wz56L26KL2z13K34L9Rz4K9z7L2z14S6z154L33P12Q3L6PL70PQ2",
     "L20P12L37PL5P4Q5P12L17P7Q8L63PLPL182PL4P2QL62P2M4P7Q5L24P18RP41RP86L5ML16ML3MLMLMLML3ML6",
     "M2L4MLM2L4ML12P2Q2L11P48L70P10QR2S2UW2z4YX3P13z3P4R3S2TUW2z3L116Y3z4Y5P85T4Yz6U12z4Xz15",
     "P12z4P56z8P10z6P40z8P30z2W2a10z4a2z62S12WU3Q9R6SR8S8RS2R12UR12ST3R15S13T5UWT4W2XTUT4Q5R13",
     "S6T11W2U6W3U2T10U6QT2U8WXU3S23T25U84z12T14z2U4WY3U3X2z3U3W4Y2az5aU6W19X4Y3W7X4Y3aYW3X3az7",
     "Y2W7X3Y2az2aX8Yaz6X7Y2z7W147zW55a37W10z1028B2E42711W7X2z32K4149X4Yz6L222z2Q5762z14S7473",
     "z15Z622z2466E542z1504B2W4939z5Y4192z56398B2z65534B2z65534B2z65534B2z65534B2z65534B2z65534",
     "B2z65534B2z65534B2z65534B2z65534B2zEz30E96z128G240z65038B131074"]

def has (v : Version) (c : Char) : Bool := (Run.letterAt? c.toNat runs).any (· ≤ v.letter)

end Version

end WorkflowManifest.Text
