import LiveCheck.Unicode.CodeTable

/-!
Canonical equivalence of characters, as tables.

`composites` holds the characters that stand for a pair of others and are what the pair
composes to. `variants` holds those that stand for others and are never composed.
`combiningClasses` gives the class by which marks on one character are ordered; what is not
in it has the class zero.
-/

namespace LiveCheck

/-- The characters that pairs compose to, each with its pair. -/
def composites : CodeTable := .ofText
  "C0=41.300 C1=41.301 C2=41.302 C3=41.303 C4=41.308 C5=41.30A C7=43.327 C8=45.300 C9=45.301
    CA=45.302 CB=45.308 CC=49.300 CD=49.301 CE=49.302 CF=49.308 D1=4E.303 D2=4F.300 D3=4F.301
    D4=4F.302 D5=4F.303 D6=4F.308 D9=55.300 DA=55.301 DB=55.302 DC=55.308 DD=59.301 E0=61.300
    E1=61.301 E2=61.302 E3=61.303 E4=61.308 E5=61.30A E7=63.327 E8=65.300 E9=65.301 EA=65.302
    EB=65.308 EC=69.300 ED=69.301 EE=69.302 EF=69.308 F1=6E.303 F2=6F.300 F3=6F.301 F4=6F.302
    F5=6F.303 F6=6F.308 F9=75.300 FA=75.301 FB=75.302 FC=75.308 FD=79.301 FF=79.308 100=41.304
    101=61.304 102=41.306 103=61.306 104=41.328 105=61.328 106=43.301 107=63.301 108=43.302
    109=63.302 10A=43.307 10B=63.307 10C=43.30C 10D=63.30C 10E=44.30C 10F=64.30C 112=45.304
    113=65.304 114=45.306 115=65.306 116=45.307 117=65.307 118=45.328 119=65.328 11A=45.30C
    11B=65.30C 11C=47.302 11D=67.302 11E=47.306 11F=67.306 120=47.307 121=67.307 122=47.327
    123=67.327 124=48.302 125=68.302 128=49.303 129=69.303 12A=49.304 12B=69.304 12C=49.306
    12D=69.306 12E=49.328 12F=69.328 130=49.307 134=4A.302 135=6A.302 136=4B.327 137=6B.327
    139=4C.301 13A=6C.301 13B=4C.327 13C=6C.327 13D=4C.30C 13E=6C.30C 143=4E.301 144=6E.301
    145=4E.327 146=6E.327 147=4E.30C 148=6E.30C 14C=4F.304 14D=6F.304 14E=4F.306 14F=6F.306
    150=4F.30B 151=6F.30B 154=52.301 155=72.301 156=52.327 157=72.327 158=52.30C 159=72.30C
    15A=53.301 15B=73.301 15C=53.302 15D=73.302 15E=53.327 15F=73.327 160=53.30C 161=73.30C
    162=54.327 163=74.327 164=54.30C 165=74.30C 168=55.303 169=75.303 16A=55.304 16B=75.304
    16C=55.306 16D=75.306 16E=55.30A 16F=75.30A 170=55.30B 171=75.30B 172=55.328 173=75.328
    174=57.302 175=77.302 176=59.302 177=79.302 178=59.308 179=5A.301 17A=7A.301 17B=5A.307
    17C=7A.307 17D=5A.30C 17E=7A.30C 1A0=4F.31B 1A1=6F.31B 1AF=55.31B 1B0=75.31B 1CD=41.30C
    1CE=61.30C 1CF=49.30C 1D0=69.30C 1D1=4F.30C 1D2=6F.30C 1D3=55.30C 1D4=75.30C 1D5=DC.304
    1D6=FC.304 1D7=DC.301 1D8=FC.301 1D9=DC.30C 1DA=FC.30C 1DB=DC.300 1DC=FC.300 1DE=C4.304
    1DF=E4.304 1E0=226.304 1E1=227.304 1E2=C6.304 1E3=E6.304 1E6=47.30C 1E7=67.30C 1E8=4B.30C
    1E9=6B.30C 1EA=4F.328 1EB=6F.328 1EC=1EA.304 1ED=1EB.304 1EE=1B7.30C 1EF=292.30C 1F0=6A.30C
    1F4=47.301 1F5=67.301 1F8=4E.300 1F9=6E.300 1FA=C5.301 1FB=E5.301 1FC=C6.301 1FD=E6.301
    1FE=D8.301 1FF=F8.301 200=41.30F 201=61.30F 202=41.311 203=61.311 204=45.30F 205=65.30F
    206=45.311 207=65.311 208=49.30F 209=69.30F 20A=49.311 20B=69.311 20C=4F.30F 20D=6F.30F
    20E=4F.311 20F=6F.311 210=52.30F 211=72.30F 212=52.311 213=72.311 214=55.30F 215=75.30F
    216=55.311 217=75.311 218=53.326 219=73.326 21A=54.326 21B=74.326 21E=48.30C 21F=68.30C
    226=41.307 227=61.307 228=45.327 229=65.327 22A=D6.304 22B=F6.304 22C=D5.304 22D=F5.304
    22E=4F.307 22F=6F.307 230=22E.304 231=22F.304 232=59.304 233=79.304 385=A8.301 386=391.301
    388=395.301 389=397.301 38A=399.301 38C=39F.301 38E=3A5.301 38F=3A9.301 390=3CA.301
    3AA=399.308 3AB=3A5.308 3AC=3B1.301 3AD=3B5.301 3AE=3B7.301 3AF=3B9.301 3B0=3CB.301
    3CA=3B9.308 3CB=3C5.308 3CC=3BF.301 3CD=3C5.301 3CE=3C9.301 3D3=3D2.301 3D4=3D2.308
    400=415.300 401=415.308 403=413.301 407=406.308 40C=41A.301 40D=418.300 40E=423.306
    419=418.306 439=438.306 450=435.300 451=435.308 453=433.301 457=456.308 45C=43A.301
    45D=438.300 45E=443.306 476=474.30F 477=475.30F 4C1=416.306 4C2=436.306 4D0=410.306
    4D1=430.306 4D2=410.308 4D3=430.308 4D6=415.306 4D7=435.306 4DA=4D8.308 4DB=4D9.308
    4DC=416.308 4DD=436.308 4DE=417.308 4DF=437.308 4E2=418.304 4E3=438.304 4E4=418.308
    4E5=438.308 4E6=41E.308 4E7=43E.308 4EA=4E8.308 4EB=4E9.308 4EC=42D.308 4ED=44D.308
    4EE=423.304 4EF=443.304 4F0=423.308 4F1=443.308 4F2=423.30B 4F3=443.30B 4F4=427.308
    4F5=447.308 4F8=42B.308 4F9=44B.308 622=627.653 623=627.654 624=648.654 625=627.655
    626=64A.654 6C0=6D5.654 6C2=6C1.654 6D3=6D2.654 929=928.93C 931=930.93C 934=933.93C
    9CB=9C7.9BE 9CC=9C7.9D7 B48=B47.B56 B4B=B47.B3E B4C=B47.B57 B94=B92.BD7 BCA=BC6.BBE
    BCB=BC7.BBE BCC=BC6.BD7 C48=C46.C56 CC0=CBF.CD5 CC7=CC6.CD5 CC8=CC6.CD6 CCA=CC6.CC2
    CCB=CCA.CD5 D4A=D46.D3E D4B=D47.D3E D4C=D46.D57 DDA=DD9.DCA DDC=DD9.DCF DDD=DDC.DCA
    DDE=DD9.DDF 1026=1025.102E 1B06=1B05.1B35 1B08=1B07.1B35 1B0A=1B09.1B35 1B0C=1B0B.1B35
    1B0E=1B0D.1B35 1B12=1B11.1B35 1B3B=1B3A.1B35 1B3D=1B3C.1B35 1B40=1B3E.1B35 1B41=1B3F.1B35
    1B43=1B42.1B35 1E00=41.325 1E01=61.325 1E02=42.307 1E03=62.307 1E04=42.323 1E05=62.323
    1E06=42.331 1E07=62.331 1E08=C7.301 1E09=E7.301 1E0A=44.307 1E0B=64.307 1E0C=44.323
    1E0D=64.323 1E0E=44.331 1E0F=64.331 1E10=44.327 1E11=64.327 1E12=44.32D 1E13=64.32D
    1E14=112.300 1E15=113.300 1E16=112.301 1E17=113.301 1E18=45.32D 1E19=65.32D 1E1A=45.330
    1E1B=65.330 1E1C=228.306 1E1D=229.306 1E1E=46.307 1E1F=66.307 1E20=47.304 1E21=67.304
    1E22=48.307 1E23=68.307 1E24=48.323 1E25=68.323 1E26=48.308 1E27=68.308 1E28=48.327
    1E29=68.327 1E2A=48.32E 1E2B=68.32E 1E2C=49.330 1E2D=69.330 1E2E=CF.301 1E2F=EF.301
    1E30=4B.301 1E31=6B.301 1E32=4B.323 1E33=6B.323 1E34=4B.331 1E35=6B.331 1E36=4C.323
    1E37=6C.323 1E38=1E36.304 1E39=1E37.304 1E3A=4C.331 1E3B=6C.331 1E3C=4C.32D 1E3D=6C.32D
    1E3E=4D.301 1E3F=6D.301 1E40=4D.307 1E41=6D.307 1E42=4D.323 1E43=6D.323 1E44=4E.307
    1E45=6E.307 1E46=4E.323 1E47=6E.323 1E48=4E.331 1E49=6E.331 1E4A=4E.32D 1E4B=6E.32D
    1E4C=D5.301 1E4D=F5.301 1E4E=D5.308 1E4F=F5.308 1E50=14C.300 1E51=14D.300 1E52=14C.301
    1E53=14D.301 1E54=50.301 1E55=70.301 1E56=50.307 1E57=70.307 1E58=52.307 1E59=72.307
    1E5A=52.323 1E5B=72.323 1E5C=1E5A.304 1E5D=1E5B.304 1E5E=52.331 1E5F=72.331 1E60=53.307
    1E61=73.307 1E62=53.323 1E63=73.323 1E64=15A.307 1E65=15B.307 1E66=160.307 1E67=161.307
    1E68=1E62.307 1E69=1E63.307 1E6A=54.307 1E6B=74.307 1E6C=54.323 1E6D=74.323 1E6E=54.331
    1E6F=74.331 1E70=54.32D 1E71=74.32D 1E72=55.324 1E73=75.324 1E74=55.330 1E75=75.330
    1E76=55.32D 1E77=75.32D 1E78=168.301 1E79=169.301 1E7A=16A.308 1E7B=16B.308 1E7C=56.303
    1E7D=76.303 1E7E=56.323 1E7F=76.323 1E80=57.300 1E81=77.300 1E82=57.301 1E83=77.301
    1E84=57.308 1E85=77.308 1E86=57.307 1E87=77.307 1E88=57.323 1E89=77.323 1E8A=58.307
    1E8B=78.307 1E8C=58.308 1E8D=78.308 1E8E=59.307 1E8F=79.307 1E90=5A.302 1E91=7A.302
    1E92=5A.323 1E93=7A.323 1E94=5A.331 1E95=7A.331 1E96=68.331 1E97=74.308 1E98=77.30A
    1E99=79.30A 1E9B=17F.307 1EA0=41.323 1EA1=61.323 1EA2=41.309 1EA3=61.309 1EA4=C2.301
    1EA5=E2.301 1EA6=C2.300 1EA7=E2.300 1EA8=C2.309 1EA9=E2.309 1EAA=C2.303 1EAB=E2.303
    1EAC=1EA0.302 1EAD=1EA1.302 1EAE=102.301 1EAF=103.301 1EB0=102.300 1EB1=103.300 1EB2=102.309
    1EB3=103.309 1EB4=102.303 1EB5=103.303 1EB6=1EA0.306 1EB7=1EA1.306 1EB8=45.323 1EB9=65.323
    1EBA=45.309 1EBB=65.309 1EBC=45.303 1EBD=65.303 1EBE=CA.301 1EBF=EA.301 1EC0=CA.300
    1EC1=EA.300 1EC2=CA.309 1EC3=EA.309 1EC4=CA.303 1EC5=EA.303 1EC6=1EB8.302 1EC7=1EB9.302
    1EC8=49.309 1EC9=69.309 1ECA=49.323 1ECB=69.323 1ECC=4F.323 1ECD=6F.323 1ECE=4F.309
    1ECF=6F.309 1ED0=D4.301 1ED1=F4.301 1ED2=D4.300 1ED3=F4.300 1ED4=D4.309 1ED5=F4.309
    1ED6=D4.303 1ED7=F4.303 1ED8=1ECC.302 1ED9=1ECD.302 1EDA=1A0.301 1EDB=1A1.301 1EDC=1A0.300
    1EDD=1A1.300 1EDE=1A0.309 1EDF=1A1.309 1EE0=1A0.303 1EE1=1A1.303 1EE2=1A0.323 1EE3=1A1.323
    1EE4=55.323 1EE5=75.323 1EE6=55.309 1EE7=75.309 1EE8=1AF.301 1EE9=1B0.301 1EEA=1AF.300
    1EEB=1B0.300 1EEC=1AF.309 1EED=1B0.309 1EEE=1AF.303 1EEF=1B0.303 1EF0=1AF.323 1EF1=1B0.323
    1EF2=59.300 1EF3=79.300 1EF4=59.323 1EF5=79.323 1EF6=59.309 1EF7=79.309 1EF8=59.303
    1EF9=79.303 1F00=3B1.313 1F01=3B1.314 1F02=1F00.300 1F03=1F01.300 1F04=1F00.301 1F05=1F01.301
    1F06=1F00.342 1F07=1F01.342 1F08=391.313 1F09=391.314 1F0A=1F08.300 1F0B=1F09.300
    1F0C=1F08.301 1F0D=1F09.301 1F0E=1F08.342 1F0F=1F09.342 1F10=3B5.313 1F11=3B5.314
    1F12=1F10.300 1F13=1F11.300 1F14=1F10.301 1F15=1F11.301 1F18=395.313 1F19=395.314
    1F1A=1F18.300 1F1B=1F19.300 1F1C=1F18.301 1F1D=1F19.301 1F20=3B7.313 1F21=3B7.314
    1F22=1F20.300 1F23=1F21.300 1F24=1F20.301 1F25=1F21.301 1F26=1F20.342 1F27=1F21.342
    1F28=397.313 1F29=397.314 1F2A=1F28.300 1F2B=1F29.300 1F2C=1F28.301 1F2D=1F29.301
    1F2E=1F28.342 1F2F=1F29.342 1F30=3B9.313 1F31=3B9.314 1F32=1F30.300 1F33=1F31.300
    1F34=1F30.301 1F35=1F31.301 1F36=1F30.342 1F37=1F31.342 1F38=399.313 1F39=399.314
    1F3A=1F38.300 1F3B=1F39.300 1F3C=1F38.301 1F3D=1F39.301 1F3E=1F38.342 1F3F=1F39.342
    1F40=3BF.313 1F41=3BF.314 1F42=1F40.300 1F43=1F41.300 1F44=1F40.301 1F45=1F41.301 1F48=39F.313
    1F49=39F.314 1F4A=1F48.300 1F4B=1F49.300 1F4C=1F48.301 1F4D=1F49.301 1F50=3C5.313 1F51=3C5.314
    1F52=1F50.300 1F53=1F51.300 1F54=1F50.301 1F55=1F51.301 1F56=1F50.342 1F57=1F51.342
    1F59=3A5.314 1F5B=1F59.300 1F5D=1F59.301 1F5F=1F59.342 1F60=3C9.313 1F61=3C9.314 1F62=1F60.300
    1F63=1F61.300 1F64=1F60.301 1F65=1F61.301 1F66=1F60.342 1F67=1F61.342 1F68=3A9.313
    1F69=3A9.314 1F6A=1F68.300 1F6B=1F69.300 1F6C=1F68.301 1F6D=1F69.301 1F6E=1F68.342
    1F6F=1F69.342 1F70=3B1.300 1F72=3B5.300 1F74=3B7.300 1F76=3B9.300 1F78=3BF.300 1F7A=3C5.300
    1F7C=3C9.300 1F80=1F00.345 1F81=1F01.345 1F82=1F02.345 1F83=1F03.345 1F84=1F04.345
    1F85=1F05.345 1F86=1F06.345 1F87=1F07.345 1F88=1F08.345 1F89=1F09.345 1F8A=1F0A.345
    1F8B=1F0B.345 1F8C=1F0C.345 1F8D=1F0D.345 1F8E=1F0E.345 1F8F=1F0F.345 1F90=1F20.345
    1F91=1F21.345 1F92=1F22.345 1F93=1F23.345 1F94=1F24.345 1F95=1F25.345 1F96=1F26.345
    1F97=1F27.345 1F98=1F28.345 1F99=1F29.345 1F9A=1F2A.345 1F9B=1F2B.345 1F9C=1F2C.345
    1F9D=1F2D.345 1F9E=1F2E.345 1F9F=1F2F.345 1FA0=1F60.345 1FA1=1F61.345 1FA2=1F62.345
    1FA3=1F63.345 1FA4=1F64.345 1FA5=1F65.345 1FA6=1F66.345 1FA7=1F67.345 1FA8=1F68.345
    1FA9=1F69.345 1FAA=1F6A.345 1FAB=1F6B.345 1FAC=1F6C.345 1FAD=1F6D.345 1FAE=1F6E.345
    1FAF=1F6F.345 1FB0=3B1.306 1FB1=3B1.304 1FB2=1F70.345 1FB3=3B1.345 1FB4=3AC.345 1FB6=3B1.342
    1FB7=1FB6.345 1FB8=391.306 1FB9=391.304 1FBA=391.300 1FBC=391.345 1FC1=A8.342 1FC2=1F74.345
    1FC3=3B7.345 1FC4=3AE.345 1FC6=3B7.342 1FC7=1FC6.345 1FC8=395.300 1FCA=397.300 1FCC=397.345
    1FCD=1FBF.300 1FCE=1FBF.301 1FCF=1FBF.342 1FD0=3B9.306 1FD1=3B9.304 1FD2=3CA.300 1FD6=3B9.342
    1FD7=3CA.342 1FD8=399.306 1FD9=399.304 1FDA=399.300 1FDD=1FFE.300 1FDE=1FFE.301 1FDF=1FFE.342
    1FE0=3C5.306 1FE1=3C5.304 1FE2=3CB.300 1FE4=3C1.313 1FE5=3C1.314 1FE6=3C5.342 1FE7=3CB.342
    1FE8=3A5.306 1FE9=3A5.304 1FEA=3A5.300 1FEC=3A1.314 1FED=A8.300 1FF2=1F7C.345 1FF3=3C9.345
    1FF4=3CE.345 1FF6=3C9.342 1FF7=1FF6.345 1FF8=39F.300 1FFA=3A9.300 1FFC=3A9.345 219A=2190.338
    219B=2192.338 21AE=2194.338 21CD=21D0.338 21CE=21D4.338 21CF=21D2.338 2204=2203.338
    2209=2208.338 220C=220B.338 2224=2223.338 2226=2225.338 2241=223C.338 2244=2243.338
    2247=2245.338 2249=2248.338 2260=3D.338 2262=2261.338 226D=224D.338 226E=3C.338 226F=3E.338
    2270=2264.338 2271=2265.338 2274=2272.338 2275=2273.338 2278=2276.338 2279=2277.338
    2280=227A.338 2281=227B.338 2284=2282.338 2285=2283.338 2288=2286.338 2289=2287.338
    22AC=22A2.338 22AD=22A8.338 22AE=22A9.338 22AF=22AB.338 22E0=227C.338 22E1=227D.338
    22E2=2291.338 22E3=2292.338 22EA=22B2.338 22EB=22B3.338 22EC=22B4.338 22ED=22B5.338
    304C=304B.3099 304E=304D.3099 3050=304F.3099 3052=3051.3099 3054=3053.3099 3056=3055.3099
    3058=3057.3099 305A=3059.3099 305C=305B.3099 305E=305D.3099 3060=305F.3099 3062=3061.3099
    3065=3064.3099 3067=3066.3099 3069=3068.3099 3070=306F.3099 3071=306F.309A 3073=3072.3099
    3074=3072.309A 3076=3075.3099 3077=3075.309A 3079=3078.3099 307A=3078.309A 307C=307B.3099
    307D=307B.309A 3094=3046.3099 309E=309D.3099 30AC=30AB.3099 30AE=30AD.3099 30B0=30AF.3099
    30B2=30B1.3099 30B4=30B3.3099 30B6=30B5.3099 30B8=30B7.3099 30BA=30B9.3099 30BC=30BB.3099
    30BE=30BD.3099 30C0=30BF.3099 30C2=30C1.3099 30C5=30C4.3099 30C7=30C6.3099 30C9=30C8.3099
    30D0=30CF.3099 30D1=30CF.309A 30D3=30D2.3099 30D4=30D2.309A 30D6=30D5.3099 30D7=30D5.309A
    30D9=30D8.3099 30DA=30D8.309A 30DC=30DB.3099 30DD=30DB.309A 30F4=30A6.3099 30F7=30EF.3099
    30F8=30F0.3099 30F9=30F1.3099 30FA=30F2.3099 30FE=30FD.3099 105C9=105D2.307 105E4=105DA.307
    1109A=11099.110BA 1109C=1109B.110BA 110AB=110A5.110BA 1112E=11131.11127 1112F=11132.11127
    1134B=11347.1133E 1134C=11347.11357 11383=11382.113C9 11385=11384.113BB 1138E=1138B.113C2
    11391=11390.113C9 113C5=113C2.113C2 113C7=113C2.113B8 113C8=113C2.113C9 114BB=114B9.114BA
    114BC=114B9.114B0 114BE=114B9.114BD 115BA=115B8.115AF 115BB=115B9.115AF 11938=11935.11930
    16121=1611E.1611E 16122=1611E.16129 16123=1611E.1611F 16124=16129.1611F 16125=1611E.16120
    16126=16121.1611F 16127=16122.1611F 16128=16121.16120 16D68=16D67.16D67 16D69=16D63.16D67
    16D6A=16D69.16D67"

/-- The characters that are only ever decomposed, each with what it stands for. -/
def variants : CodeTable := .ofText
  "340-341:300 343=313 344=308.301 374=2B9 37E=3B 387=B7 958=915.93C 959=916.93C 95A=917.93C
    95B=91C.93C 95C=921.93C 95D=922.93C 95E=92B.93C 95F=92F.93C 9DC=9A1.9BC 9DD=9A2.9BC
    9DF=9AF.9BC A33=A32.A3C A36=A38.A3C A59=A16.A3C A5A=A17.A3C A5B=A1C.A3C A5E=A2B.A3C
    B5C=B21.B3C B5D=B22.B3C F43=F42.FB7 F4D=F4C.FB7 F52=F51.FB7 F57=F56.FB7 F5C=F5B.FB7
    F69=F40.FB5 F73=F71.F72 F75=F71.F74 F76=FB2.F80 F78=FB3.F80 F81=F71.F80 F93=F92.FB7
    F9D=F9C.FB7 FA2=FA1.FB7 FA7=FA6.FB7 FAC=FAB.FB7 FB9=F90.FB5 1F71=3B1.301 1F73=3B5.301
    1F75=3B7.301 1F77=3B9.301 1F79=3BF.301 1F7B=3C5.301 1F7D=3C9.301 1FBB=391.301 1FBE=3B9
    1FC9=395.301 1FCB=397.301 1FD3=3B9.308.301 1FDB=399.301 1FE3=3C5.308.301 1FEB=3A5.301
    1FEE=A8.301 1FEF=60 1FF9=39F.301 1FFB=3A9.301 1FFD=B4 2000-2001:2002 2126=3A9 212A=4B
    212B=41.30A 2329-232A:3008 2ADC=2ADD.338
    F900>8C48.66F4.8ECA.8CC8.6ED1.4E32.53E5.9F9C.9F9C.5951.91D1.5587
    F90C>5948.61F6.7669.7F85.863F.87BA.88F8.908F.6A02.6D1B.70D9.73DE
    F918>843D.916A.99F1.4E82.5375.6B04.721B.862D.9E1E.5D50.6FEB.85CD
    F924>8964.62C9.81D8.881F.5ECA.6717.6D6A.72FC.90CE.4F86.51B7.52DE
    F930>64C4.6AD3.7210.76E7.8001.8606.865C.8DEF.9732.9B6F.9DFA.788C
    F93C>797F.7DA0.83C9.9304.9E7F.8AD6.58DF.5F04.7C60.807E.7262.78CA
    F948>8CC2.96F7.58D8.5C62.6A13.6DDA.6F0F.7D2F.7E37.964B.52D2.808B
    F954>51DC.51CC.7A1C.7DBE.83F1.9675.8B80.62CF.6A02.8AFE.4E39.5BE7
    F960>6012.7387.7570.5317.78FB.4FBF.5FA9.4E0D.6CCC.6578.7D22.53C3
    F96C>585E.7701.8449.8AAA.6BBA.8FB0.6C88.62FE.82E5.63A0.7565.4EAE
    F978>5169.51C9.6881.7CE7.826F.8AD2.91CF.52F5.5442.5973.5EEC.65C5
    F984>6FFE.792A.95AD.9A6A.9E97.9ECE.529B.66C6.6B77.8F62.5E74.6190
    F990>6200.649A.6F23.7149.7489.79CA.7DF4.806F.8F26.84EE.9023.934A
    F99C>5217.52A3.54BD.70C8.88C2.8AAA.5EC9.5FF5.637B.6BAE.7C3E.7375
    F9A8>4EE4.56F9.5BE7.5DBA.601C.73B2.7469.7F9A.8046.9234.96F6.9748
    F9B4>9818.4F8B.79AE.91B4.96B8.60E1.4E86.50DA.5BEE.5C3F.6599.6A02
    F9C0>71CE.7642.84FC.907C.9F8D.6688.962E.5289.677B.67F3.6D41.6E9C
    F9CC>7409.7559.786B.7D10.985E.516D.622E.9678.502B.5D19.6DEA.8F2A
    F9D8>5F8B.6144.6817.7387.9686.5229.540F.5C65.6613.674E.68A8.6CE5
    F9E4>7406.75E2.7F79.88CF.88E1.91CC.96E2.533F.6EBA.541D.71D0.7498
    F9F0>85FA.96A3.9C57.9E9F.6797.6DCB.81E8.7ACB.7B20.7C92.72C0.7099
    F9FC>8B58.4EC0.8336.523A.5207.5EA6.62D3.7CD6.5B85.6D1E.66B4.8F3B
    FA08>884C.964D.898B.5ED3.5140.55C0 FA10=585A FA12=6674
    FA15>51DE.732A.76CA.793C.795E.7965.798F.9756.7CBE.7FBD FA20=8612 FA22=8AF8 FA25>9038.90FD
    FA2A>98EF.98FC.9928.9DB4.90DE.96B7.4FAE.50E7.514D.52C9.52E4.5351
    FA36>559D.5606.5668.5840.58A8.5C64.5C6E.6094.6168.618E.61F2.654F
    FA42>65E2.6691.6885.6D77.6E1A.6F22.716E.722B.7422.7891.793E.7949
    FA4E>7948.7950.7956.795D.798D.798E.7A40.7A81.7BC0.7DF4.7E09.7E41
    FA5A>7F72.8005.81ED.8279.8279.8457.8910.8996.8B01.8B39.8CD3.8D08
    FA66>8FB6.9038.96E3.97FF.983B.6075.242EE.8218
    FA70>4E26.51B5.5168.4F80.5145.5180.52C7.52FA.559D.5555.5599.55E2
    FA7C>585A.58B3.5944.5954.5A62.5B28.5ED2.5ED9.5F69.5FAD.60D8.614E
    FA88>6108.618E.6160.61F2.6234.63C4.641C.6452.6556.6674.6717.671B
    FA94>6756.6B79.6BBA.6D41.6EDB.6ECB.6F22.701E.716E.77A7.7235.72AF
    FAA0>732A.7471.7506.753B.761D.761F.76CA.76DB.76F4.774A.7740.78CC
    FAAC>7AB1.7BC0.7C7B.7D5B.7DF4.7F3E.8005.8352.83EF.8779.8941.8986
    FAB8>8996.8ABF.8AF8.8ACB.8B01.8AFE.8AED.8B39.8B8A.8D08.8F38.9072
    FAC4>9199.9276.967C.96E3.9756.97DB.97FF.980B.983B.9B12.9F9C.2284A
    FAD0>22844.233D5.3B9D.4018.4039.25249.25CD0.27ED3.9F43.9F8E FB1D=5D9.5B4 FB1F=5F2.5B7
    FB2A=5E9.5C1 FB2B=5E9.5C2 FB2C=5E9.5BC.5C1 FB2D=5E9.5BC.5C2 FB2E=5D0.5B7 FB2F=5D0.5B8
    FB30=5D0.5BC FB31=5D1.5BC FB32=5D2.5BC FB33=5D3.5BC FB34=5D4.5BC FB35=5D5.5BC FB36=5D6.5BC
    FB38=5D8.5BC FB39=5D9.5BC FB3A=5DA.5BC FB3B=5DB.5BC FB3C=5DC.5BC FB3E=5DE.5BC FB40=5E0.5BC
    FB41=5E1.5BC FB43=5E3.5BC FB44=5E4.5BC FB46=5E6.5BC FB47=5E7.5BC FB48=5E8.5BC FB49=5E9.5BC
    FB4A=5EA.5BC FB4B=5D5.5B9 FB4C=5D1.5BF FB4D=5DB.5BF FB4E=5E4.5BF 1D15E=1D157.1D165
    1D15F=1D158.1D165 1D160=1D158.1D165.1D16E 1D161=1D158.1D165.1D16F 1D162=1D158.1D165.1D170
    1D163=1D158.1D165.1D171 1D164=1D158.1D165.1D172 1D1BB=1D1B9.1D165 1D1BC=1D1BA.1D165
    1D1BD=1D1B9.1D165.1D16E 1D1BE=1D1BA.1D165.1D16E 1D1BF=1D1B9.1D165.1D16F
    1D1C0=1D1BA.1D165.1D16F 2F800>4E3D.4E38.4E41.20122.4F60.4FAE.4FBB.5002.507A.5099.50E7.50CF
    2F80C>349E.2063A.514D.5154.5164.5177.2051C.34B9.5167.518D.2054B.5197
    2F818>51A4.4ECC.51AC.51B5.291DF.51F5.5203.34DF.523B.5246.5272.5277
    2F824>3515.52C7.52C9.52E4.52FA.5305.5306.5317.5349.5351.535A.5373 2F830=537D 2F831-2F833=537F
    2F834>20A2C.7070.53CA.53DF.20B63.53EB.53F1.5406.549E.5438.5448.5468
    2F840>54A2.54F6.5510.5553.5563.5584.5584.5599.55AB.55B3.55C2.5716
    2F84C>5606.5717.5651.5674.5207.58EE.57CE.57F4.580D.578B.5832.5831
    2F858>58AC.214E4.58F2.58F7.5906.591A.5922.5962.216A8.216EA.59EC.5A1B
    2F864>5A27.59D8.5A66.36EE.36FC.5B08.5B3E.5B3E.219C8.5BC3.5BD8.5BE7
    2F870>5BF3.21B18.5BFF.5C06.5F53.5C22.3781.5C60.5C6E.5CC0.5C8D.21DE4
    2F87C>5D43.21DE6.5D6E.5D6B.5D7C.5DE1.5DE2.382F.5DFD.5E28.5E3D.5E69
    2F888>3862.22183.387C.5EB0.5EB3.5EB6.5ECA.2A392.5EFE.22331.22331.8201
    2F894>5F22.5F22.38C7.232B8.261DA.5F62.5F6B.38E3.5F9A.5FCD.5FD7.5FF9
    2F8A0>6081.393A.391C.6094.226D4.60C7.6148.614C.614E.614C.617A.618E
    2F8AC>61B2.61A4.61AF.61DE.61F2.61F6.6210.621B.625D.62B1.62D4.6350
    2F8B8>22B0C.633D.62FC.6368.6383.63E4.22BF1.6422.63C5.63A9.3A2E.6469
    2F8C4>647E.649D.6477.3A6C.654F.656C.2300A.65E3.66F8.6649.3B19.6691
    2F8D0>3B08.3AE4.5192.5195.6700.669C.80AD.43D9.6717.671B.6721.675E
    2F8DC>6753.233C3.3B49.67FA.6785.6852.6885.2346D.688E.681F.6914.3B9D
    2F8E8>6942.69A3.69EA.6AA8.236A3.6ADB.3C18.6B21.238A7.6B54.3C4E.6B72
    2F8F4>6B9F.6BBA.6BBB.23A8D.21D0B.23AFA.6C4E.23CBC.6CBF.6CCD.6C67.6D16
    2F900>6D3E.6D77.6D41.6D69.6D78.6D85.23D1E.6D34.6E2F.6E6E.3D33.6ECB
    2F90C>6EC7.23ED1.6DF9.6F6E.23F5E.23F8E.6FC6.7039.701E.701B.3D96.704A
    2F918>707D.7077.70AD.20525.7145.24263.719C.243AB.7228.7235.7250.24608
    2F924>7280.7295.24735.24814.737A.738B.3EAC.73A5.3EB8.3EB8.7447.745C
    2F930>7471.7485.74CA.3F1B.7524.24C36.753E.24C92.7570.2219F.7610.24FA1
    2F93C>24FB8.25044.3FFC.4008.76F4.250F3.250F2.25119.25133.771E.771F.771F
    2F948>774A.4039.778B.4046.4096.2541D.784E.788C.78CC.40E3.25626.7956
    2F954>2569A.256C5.798F.79EB.412F.7A40.7A4A.7A4F.2597C.25AA7.25AA7.7AEE
    2F960>4202.25BAB.7BC6.7BC9.4227.25C80.7CD2.42A0.7CE8.7CE3.7D00.25F86
    2F96C>7D63.4301.7DC7.7E02.7E45.4334.26228.26247.4359.262D9.7F7A.2633E
    2F978>7F95.7FFA.8005.264DA.26523.8060.265A8.8070.2335F.43D5.80B2.8103
    2F984>440B.813E.5AB5.267A7.267B5.23393.2339C.8201.8204.8F9E.446B.8291
    2F990>828B.829D.52B3.82B1.82B3.82BD.82E6.26B3C.82E5.831D.8363.83AD
    2F99C>8323.83BD.83E7.8457.8353.83CA.83CC.83DC.26C36.26D6B.26CD5.452B
    2F9A8>84F1.84F3.8516.273CA.8564.26F2C.455D.4561.26FB1.270D2.456B.8650
    2F9B4>865C.8667.8669.86A9.8688.870E.86E2.8779.8728.876B.8786.45D7
    2F9C0>87E1.8801.45F9.8860.8863.27667.88D7.88DE.4635.88FA.34BB.278AE
    2F9CC>27966.46BE.46C7.8AA0.8AED.8B8A.8C55.27CA8.8CAB.8CC1.8D1B.8D77
    2F9D8>27F2F.20804.8DCB.8DBC.8DF0.208DE.8ED4.8F38.285D2.285ED.9094.90F1
    2F9E4>9111.2872E.911B.9238.92D7.92D8.927C.93F9.9415.28BFA.958B.4995
    2F9F0>95B7.28D77.49E6.96C3.5DB2.9723.29145.2921A.4A6E.4A76.97E0.2940A
    2F9FC>4AB2.29496.980B.980B.9829.295B6.98E2.4B33.9929.99A7.99C2.99FE
    2FA08>4BCE.29B30.9B12.9C40.9CFD.4CCE.4CED.9D67.2A0CE.4CF8.2A105.2A20E
    2FA14>2A291.9EBB.4D56.9EF9.9EFE.9F05.9F0F.9F16.9F3B.2A600"

/-- The classes of marks that are not of class zero. -/
def combiningClasses : CodeTable := .ofText
  "300-314=E6 315=E8 316-319=DC 31A>E8.D8 31C-320=DC 321-322=CA 323-326=DC 327-328=CA 329-333=DC
    334-338=1 339-33C=DC 33D-344=E6 345>F0.E6 347-349=DC 34A-34C=E6 34D-34E=DC 350-352=E6
    353-356=DC 357>E6.E8.DC.DC.E6.E9.EA.EA.E9.EA.EA.E9 363-36F=E6 483-487=E6 591=DC 592-595=E6
    596=DC 597-599=E6 59A>DE.DC 59C-5A1=E6 5A2-5A7=DC 5A8>E6.E6.DC.E6.E6.DE.E4.E6 5B0-5B9:A
    5BA-5BD:13 5BF=17 5C1-5C2:18 5C4>E6.DC 5C7>12.A.15 610-617=E6 618-61A:1E 64B-652:1B
    653>E6.E6.DC.DC 657-65B=E6 65C>DC.E6.E6.DC 670=23 6D6-6DC=E6 6DF-6E2=E6 6E3>DC.E6 6E7-6E8=E6
    6EA>DC.E6.E6.DC 711=24 730>E6.DC.E6.E6.DC.E6.E6 737-739=DC 73A>E6.DC.DC.E6.DC 73F-741=E6
    742>DC.E6.DC.E6.DC.E6.DC.E6.E6 7EB-7F1=E6 7F2>DC.E6 7FD=DC 816-819=E6 81B-823=E6 825-827=E6
    829-82D=E6 859-85B=DC 897-898=E6 899-89B=DC 89C-89F=E6 8CA-8CE=E6 8CF-8D3=DC 8D4-8E1=E6
    8E3>DC.E6.E6.DC.E6.E6.DC 8EA-8EC=E6 8ED-8EF=DC 8F0-8F2:1B 8F3-8F5=E6 8F6>DC.E6.E6.DC.DC
    8FB-8FF=E6 93C=7 94D=9 951>E6.DC.E6.E6 9BC=7 9CD=9 9FE=E6 A3C=7 A4D=9 ABC=7 ACD=9 B3C=7 B4D=9
    BCD=9 C3C=7 C4D=9 C55>54.5B CBC=7 CCD=9 D3B-D3C=9 D4D=9 DCA=9 E38>67.67.9 E48-E4B=6B
    EB8>76.76.9 EC8-ECB=7A F18-F19=DC F35=DC F37=DC F39=D8 F71-F72:81 F74=84 F7A-F7D=82 F80=82
    F82>E6.E6.9 F86-F87=E6 FC6=DC 1037=7 1039-103A=9 108D=DC 135D-135F=E6 1714-1715=9 1734=9
    17D2=9 17DD=E6 18A9=E4 1939>DE.E6.DC 1A17>E6.DC 1A60=9 1A75-1A7C=E6 1A7F=DC 1AB0-1AB4=E6
    1AB5-1ABA=DC 1ABB>E6.E6.DC 1ABF>DC.DC.E6.E6.DC.DC 1AC5-1AC9=E6 1ACA=DC 1ACB-1ADC=E6 1ADD=DC
    1ADE-1AE5=E6 1AE6=DC 1AE7-1AEA=E6 1AEB>EA.E6.E6.DC.E6.E6 1B34=7 1B44=9 1B6B>E6.DC 1B6D-1B73=E6
    1BAA-1BAB=9 1BE6=7 1BF2-1BF3=9 1C37=7 1CD0-1CD2=E6 1CD4=1 1CD5-1CD9=DC 1CDA-1CDB=E6
    1CDC-1CDF=DC 1CE0=E6 1CE2-1CE8=1 1CED=DC 1CF4=E6 1CF8-1CF9=E6 1DC0>E6.E6.DC 1DC3-1DC9=E6
    1DCA>DC.E6.E6.EA.D6.DC.CA 1DD1-1DF5=E6 1DF6>E8.E4.E4.DC.DA.E6.E9.DC.E6.DC 20D0>E6.E6.1.1
    20D4-20D7=E6 20D8-20DA=1 20DB-20DC=E6 20E1=E6 20E5>1.1.E6.DC.E6.1.1 20EC-20EF=DC 20F0=E6
    2CEF-2CF1=E6 2D7F=9 2DE0-2DFF=E6 302A>DA.E4.E8.DE.E0.E0 3099-309A=8 A66F=E6 A674-A67D=E6
    A69E-A69F=E6 A6F0-A6F1=E6 A806=9 A82C=9 A8C4=9 A8E0-A8F1=E6 A92B-A92D=DC A953=9 A9B3=7 A9C0=9
    AAB0=E6 AAB2>E6.E6.DC AAB7-AAB8=E6 AABE-AABF=E6 AAC1=E6 AAF6=9 ABED=9 FB1E=1A FE20-FE26=E6
    FE27-FE2D=DC FE2E-FE2F=E6 101FD=DC 102E0=DC 10376-1037A=E6 10A0D=DC 10A0F=E6 10A38>E6.1.DC
    10A3F=9 10AE5>E6.DC 10D24-10D27=E6 10D69-10D6D=E6 10EAB-10EAC=E6 10ECB>E6.DC.DC.E6.E6
    10EF0-10EF2=DC 10EF3>E6.DC.E6.DC 10EF7-10EF9=E6 10EFA-10EFB=DC 10EFD-10EFF=DC 10F46-10F47=DC
    10F48-10F4A=E6 10F4B>DC.E6 10F4D-10F50=DC 10F82>E6.DC.E6.DC 11046=9 11070=9 1107F=9 110B9>9.7
    11100-11102=E6 11133-11134=9 11173=7 111C0=9 111CA=7 11235>9.7 112E9>7.9 1133B-1133C=7 1134D=9
    11366-1136C=E6 11370-11374=E6 113CE-113D0=9 11442=9 11446=7 1145E=E6 114C2>9.7 115BF>9.7
    1163F=9 116B6>9.7 1172B=9 11839>9.7 1193D-1193E=9 11943=7 119E0=9 11A34=9 11A47=9 11A99=9
    11C3F=9 11D42=7 11D44-11D45=9 11D97=9 11F41-11F42=9 1612F=9 16AF0-16AF4=1 16B30-16B36=E6
    16FF0-16FF1=6 1BC9E=1 1D127-1D128=DC 1D165-1D166=D8 1D167-1D169=1 1D16D=E2 1D16E-1D172=D8
    1D17B-1D182=DC 1D185-1D189=E6 1D18A-1D18B=DC 1D1AA-1D1AD=E6 1D242-1D244=E6 1D250-1D252=D8
    1D25B-1D25C=1 1D280-1D281=D8 1E000-1E006=E6 1E008-1E018=E6 1E01B-1E021=E6 1E023-1E024=E6
    1E026-1E02A=E6 1E08F=E6 1E130-1E136=E6 1E2AE=E6 1E2EC-1E2EF=E6 1E4EC>E8.E8.DC.E6 1E5EE>E6.DC
    1E6E3=E6 1E6E6=E6 1E6EE-1E6EF=E6 1E6F5=E6 1E8D0-1E8D6=DC 1E944-1E949=E6 1E94A=7"

end LiveCheck
