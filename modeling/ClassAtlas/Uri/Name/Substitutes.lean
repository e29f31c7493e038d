/-
The first half of the substitutes in names, up to the number F8FF: a row says for some characters
what stands for them in a name: other characters, with the same distance between them for all of a
range, or nothing; an exclamation mark refuses them. A character without a row stands for itself.
-/

namespace ClassAtlas.Uri.Name

/-- The first rows of the table of substitutes. -/
def substituteLines : List String := [
  "41-5A:61 80-9F:! A0:20 A8:20.308 AA:61 AD: AF:20.304 B2-B3:32 B4:20.301 B5:3BC B8:20.327 B9:31",
  "BA:6F BC:31.2044.34 BD:31.2044.32 BE:33.2044.34 C0-D6:E0 D8-DE:F8 100-12E/2:101 130:69.307",
  "132:69.6A 133:69.6A 134-136/2:135 139-13D/2:13A 13F:6C.B7 140:6C.B7 141-147/2:142 149:2BC.6E",
  "14A-176/2:14B 178:FF 179-17D/2:17A 17F:73 181:253 182-184/2:183 186:254 187:188 189-18A:256",
  "18B:18C 18E:1DD 18F:259 190:25B 191:192 193:260 194:263 196:269 197:268 198:199 19C:26F",
  "19D:272 19F:275 1A0-1A4/2:1A1 1A6:280 1A7:1A8 1A9:283 1AC:1AD 1AE:288 1AF:1B0 1B1-1B2:28A",
  "1B3-1B5/2:1B4 1B7:292 1B8:1B9 1BC:1BD 1C4:64.17E 1C5:64.17E 1C6:64.17E 1C7:6C.6A 1C8:6C.6A",
  "1C9:6C.6A 1CA:6E.6A 1CB:6E.6A 1CC:6E.6A 1CD-1DB/2:1CE 1DE-1EE/2:1DF 1F1:64.7A 1F2:64.7A",
  "1F3:64.7A 1F4:1F5 1F6:195 1F7:1BF 1F8-21E/2:1F9 220:19E 222-232/2:223 23A:2C65 23B:23C 23D:19A",
  "23E:2C66 241:242 243:180 244:289 245:28C 246-24E/2:247 2B0:68 2B1:266 2B2:6A 2B3:72 2B4:279",
  "2B5:27B 2B6:281 2B7:77 2B8:79 2D8:20.306 2D9:20.307 2DA:20.30A 2DB:20.328 2DC:20.303",
  "2DD:20.30B 2E0:263 2E1:6C 2E2:73 2E3:78 2E4:295 340-341:300 343:313 344:308.301 345:3B9 34F:",
  "370-372/2:371 374:2B9 376:377 378-379:! 37A:20.3B9 37E:3B 37F:3F3 380-383:! 384:20.301",
  "385:20.308.301 386:3AC 387:B7 388-38A:3AD 38B:! 38C:3CC 38D:! 38E-38F:3CD 391-3A1:3B1 3A2:!",
  "3A3-3AB:3C3 3CF:3D7 3D0:3B2 3D1:3B8 3D2:3C5 3D3:3CD 3D4:3CB 3D5:3C6 3D6:3C0 3D8-3EE/2:3D9",
  "3F0:3BA 3F1:3C1 3F2:3C3 3F4:3B8 3F5:3B5 3F7:3F8 3F9:3C3 3FA:3FB 3FD-3FF:37B 400-40F:450",
  "410-42F:430 460-480/2:461 48A-4BE/2:48B 4C0:4CF 4C1-4CD/2:4C2 4D0-52E/2:4D1 530:! 531-556:561",
  "557-558:! 587:565.582 58B-58C:! 590:! 5C8-5CF:! 5EB-5EE:! 5F5-605:! 61C:! 675:627.674",
  "676:648.674 677:6C7.674 678:64A.674 6DD:! 70E-70F:! 74B-74C:! 7B2-7BF:! 7FB-7FC:! 82E-82F:!",
  "83F:! 85C-85D:! 85F:! 86B-86F:! 890-896:! 8E2:! 958:915.93C 959:916.93C 95A:917.93C",
  "95B:91C.93C 95C:921.93C 95D:922.93C 95E:92B.93C 95F:92F.93C 984:! 98D-98E:! 991-992:! 9A9:!",
  "9B1:! 9B3-9B5:! 9BA-9BB:! 9C5-9C6:! 9C9-9CA:! 9CF-9D6:! 9D8-9DB:! 9DC:9A1.9BC 9DD:9A2.9BC",
  "9DE:! 9DF:9AF.9BC 9E4-9E5:! 9FF-A00:! A04:! A0B-A0E:! A11-A12:! A29:! A31:! A33:A32.A3C A34:!",
  "A36:A38.A3C A37:! A3A-A3B:! A3D:! A43-A46:! A49-A4A:! A4E-A50:! A52-A58:! A59:A16.A3C",
  "A5A:A17.A3C A5B:A1C.A3C A5D:! A5E:A2B.A3C A5F-A65:! A77-A80:! A84:! A8E:! A92:! AA9:! AB1:!",
  "AB4:! ABA-ABB:! AC6:! ACA:! ACE-ACF:! AD1-ADF:! AE4-AE5:! AF2-AF8:! B00:! B04:! B0D-B0E:!",
  "B11-B12:! B29:! B31:! B34:! B3A-B3B:! B45-B46:! B49-B4A:! B4E-B54:! B58-B5B:! B5C:B21.B3C",
  "B5D:B22.B3C B5E:! B64-B65:! B78-B81:! B84:! B8B-B8D:! B91:! B96-B98:! B9B:! B9D:! BA0-BA2:!",
  "BA5-BA7:! BAB-BAD:! BBA-BBD:! BC3-BC5:! BC9:! BCE-BCF:! BD1-BD6:! BD8-BE5:! BFB-BFF:! C0D:!",
  "C11:! C29:! C3A-C3B:! C45:! C49:! C4E-C54:! C57:! C5B:! C5E-C5F:! C64-C65:! C70-C76:! C8D:!",
  "C91:! CA9:! CB4:! CBA-CBB:! CC5:! CC9:! CCE-CD4:! CD7-CDB:! CDF:! CE4-CE5:! CF0:! CF4-CFF:!",
  "D0D:! D11:! D45:! D49:! D50-D53:! D64-D65:! D80:! D84:! D97-D99:! DB2:! DBC:! DBE-DBF:!",
  "DC7-DC9:! DCB-DCE:! DD5:! DD7:! DE0-DE5:! DF0-DF1:! DF5-E00:! E33:E4D.E32 E3B-E3E:! E5C-E80:!",
  "E83:! E85:! E8B:! EA4:! EA6:! EB3:ECD.EB2 EBE-EBF:! EC5:! EC7:! ECF:! EDA-EDB:! EDC:EAB.E99",
  "EDD:EAB.EA1 EE0-EFF:! F0C:F0B F43:F42.FB7 F48:! F4D:F4C.FB7 F52:F51.FB7 F57:F56.FB7",
  "F5C:F5B.FB7 F69:F40.FB5 F6D-F70:! F73:F71.F72 F75:F71.F74 F76:FB2.F80 F77:FB2.F71.F80",
  "F78:FB3.F80 F79:FB3.F71.F80 F81:F71.F80 F93:F92.FB7 F98:! F9D:F9C.FB7 FA2:FA1.FB7 FA7:FA6.FB7",
  "FAC:FAB.FB7 FB9:F90.FB5 FBD:! FCD:! FDB-FFF:! 10A0-10C5:2D00 10C6:! 10C7:2D27 10C8-10CC:!",
  "10CD:2D2D 10CE-10CF:! 10FC:10DC 115F-1160: 1249:! 124E-124F:! 1257:! 1259:! 125E-125F:! 1289:!",
  "128E-128F:! 12B1:! 12B6-12B7:! 12BF:! 12C1:! 12C6-12C7:! 12D7:! 1311:! 1316-1317:! 135B-135C:!",
  "137D-137F:! 139A-139F:! 13F6-13F7:! 13F8-13FD:13F0 13FE-13FF:! 1680:! 169D-169F:! 16F9-16FF:!",
  "1716-171E:! 1737-173F:! 1754-175F:! 176D:! 1771:! 1774-177F:! 17B4-17B5: 17DE-17DF:!",
  "17EA-17EF:! 17FA-17FF:! 180B-180F: 181A-181F:! 1879-187F:! 18AB-18AF:! 18F6-18FF:! 191F:!",
  "192C-192F:! 193C-193F:! 1941-1943:! 196E-196F:! 1975-197F:! 19AC-19AF:! 19CA-19CF:!",
  "19DB-19DD:! 1A1C-1A1D:! 1A5F:! 1A7D-1A7E:! 1A8A-1A8F:! 1A9A-1A9F:! 1AAE-1AAF:! 1ADE-1ADF:!",
  "1AEC-1AFF:! 1B4D:! 1BF4-1BFB:! 1C38-1C3A:! 1C4A-1C4C:! 1C80:432 1C81:434 1C82:43E",
  "1C83-1C84:441 1C85:442 1C86:44A 1C87:463 1C88:A64B 1C89:1C8A 1C8B-1C8F:! 1C90-1CBA:10D0",
  "1CBB-1CBC:! 1CBD-1CBF:10FD 1CC8-1CCF:! 1CFB-1CFF:! 1D2C:61 1D2D:E6 1D2E-1D30/2:62 1D31:65",
  "1D32:1DD 1D33-1D3A:67 1D3C:6F 1D3D:223 1D3E:70 1D3F:72 1D40-1D41:74 1D42:77 1D43:61",
  "1D44-1D45:250 1D46:1D02 1D47:62 1D48-1D49:64 1D4A:259 1D4B-1D4C:25B 1D4D:67 1D4F:6B 1D50:6D",
  "1D51:14B 1D52:6F 1D53:254 1D54-1D55:1D16 1D56:70 1D57-1D58:74 1D59:1D1D 1D5A:26F 1D5B:76",
  "1D5C:1D25 1D5D-1D5F:3B2 1D60-1D61:3C6 1D62:69 1D63:72 1D64-1D65:75 1D66-1D67:3B2 1D68:3C1",
  "1D69-1D6A:3C6 1D78:43D 1D9B:252 1D9C:63 1D9D:255 1D9E:F0 1D9F:25C 1DA0:66 1DA1:25F 1DA2:261",
  "1DA3:265 1DA4-1DA6:268 1DA7:1D7B 1DA8:29D 1DA9:26D 1DAA:1D85 1DAB:29F 1DAC:271 1DAD:270",
  "1DAE-1DB1:272 1DB2:278 1DB3-1DB4:282 1DB5:1AB 1DB6-1DB7:289 1DB8:1D1C 1DB9-1DBA:28B 1DBB:7A",
  "1DBC-1DBE:290 1DBF:3B8 1E00-1E94/2:1E01 1E9A:61.2BE 1E9B:1E61 1E9E:DF 1EA0-1EFE/2:1EA1",
  "1F08-1F0F:1F00 1F16-1F17:! 1F18-1F1D:1F10 1F1E-1F1F:! 1F28-1F2F:1F20 1F38-1F3F:1F30",
  "1F46-1F47:! 1F48-1F4D:1F40 1F4E-1F4F:! 1F58:! 1F59:1F51 1F5A:! 1F5B:1F53 1F5C:! 1F5D:1F55",
  "1F5E:! 1F5F:1F57 1F68-1F6F:1F60 1F71:3AC 1F73:3AD 1F75:3AE 1F77:3AF 1F79:3CC 1F7B:3CD 1F7D:3CE",
  "1F7E-1F7F:! 1F80:1F00.3B9 1F81:1F01.3B9 1F82:1F02.3B9 1F83:1F03.3B9 1F84:1F04.3B9",
  "1F85:1F05.3B9 1F86:1F06.3B9 1F87:1F07.3B9 1F88:1F00.3B9 1F89:1F01.3B9 1F8A:1F02.3B9",
  "1F8B:1F03.3B9 1F8C:1F04.3B9 1F8D:1F05.3B9 1F8E:1F06.3B9 1F8F:1F07.3B9 1F90:1F20.3B9",
  "1F91:1F21.3B9 1F92:1F22.3B9 1F93:1F23.3B9 1F94:1F24.3B9 1F95:1F25.3B9 1F96:1F26.3B9",
  "1F97:1F27.3B9 1F98:1F20.3B9 1F99:1F21.3B9 1F9A:1F22.3B9 1F9B:1F23.3B9 1F9C:1F24.3B9",
  "1F9D:1F25.3B9 1F9E:1F26.3B9 1F9F:1F27.3B9 1FA0:1F60.3B9 1FA1:1F61.3B9 1FA2:1F62.3B9",
  "1FA3:1F63.3B9 1FA4:1F64.3B9 1FA5:1F65.3B9 1FA6:1F66.3B9 1FA7:1F67.3B9 1FA8:1F60.3B9",
  "1FA9:1F61.3B9 1FAA:1F62.3B9 1FAB:1F63.3B9 1FAC:1F64.3B9 1FAD:1F65.3B9 1FAE:1F66.3B9",
  "1FAF:1F67.3B9 1FB2:1F70.3B9 1FB3:3B1.3B9 1FB4:3AC.3B9 1FB5:! 1FB7:1FB6.3B9 1FB8-1FB9:1FB0",
  "1FBA:1F70 1FBB:3AC 1FBC:3B1.3B9 1FBD:20.313 1FBE:3B9 1FBF:20.313 1FC0:20.342 1FC1:20.308.342",
  "1FC2:1F74.3B9 1FC3:3B7.3B9 1FC4:3AE.3B9 1FC5:! 1FC7:1FC6.3B9 1FC8:1F72 1FC9:3AD 1FCA:1F74",
  "1FCB:3AE 1FCC:3B7.3B9 1FCD:20.313.300 1FCE:20.313.301 1FCF:20.313.342 1FD3:390 1FD4-1FD5:!",
  "1FD8-1FD9:1FD0 1FDA:1F76 1FDB:3AF 1FDC:! 1FDD:20.314.300 1FDE:20.314.301 1FDF:20.314.342",
  "1FE3:3B0 1FE8-1FE9:1FE0 1FEA:1F7A 1FEB:3CD 1FEC:1FE5 1FED:20.308.300 1FEE:20.308.301 1FEF:60",
  "1FF0-1FF1:! 1FF2:1F7C.3B9 1FF3:3C9.3B9 1FF4:3CE.3B9 1FF5:! 1FF7:1FF6.3B9 1FF8:1F78 1FF9:3CC",
  "1FFA:1F7C 1FFB:3CE 1FFC:3C9.3B9 1FFD:20.301 1FFE:20.314 1FFF:! 2000:20 2001:20 2002:20 2003:20",
  "2004:20 2005:20 2006:20 2007:20 2008:20 2009:20 200A:20 200B: 200E-200F:! 2011:2010",
  "2017:20.333 2024-2026:! 2028-202E:! 202F:20 2033:2032.2032 2034:2032.2032.2032 2036:2035.2035",
  "2037:2035.2035.2035 203C:21.21 203E:20.305 2047:3F.3F 2048:3F.21 2049:21.3F",
  "2057:2032.2032.2032.2032 205F:20 2060-2064: 2065-2069:! 206A-206F: 2070:30 2071:69 2072-2073:!",
  "2074-2079:34 207A:2B 207B:2212 207C:3D 207D-207E:28 207F:6E 2080-2089:30 208A:2B 208B:2212",
  "208C:3D 208D-208E:28 208F:! 2090:61 2091:65 2092:6F 2093:78 2094:259 2095:68 2096-2099:6B",
  "209A:70 209B-209C:73 209D-209F:! 20A8:72.73 20C2-20CF:! 20F1-20FF:! 2100:61.2F.63",
  "2101:61.2F.73 2102:63 2103:B0.63 2105:63.2F.6F 2106:63.2F.75 2107:25B 2109:B0.66 210A-210B:67",
  "210C:68 210D:68 210E:68 210F:127 2110:69 2111:69 2112:6C 2113-2115/2:6C 2116:6E.6F",
  "2119-211B:70 211C:72 211D:72 2120:73.6D 2121:74.65.6C 2122:74.6D 2124:7A 2126:3C9 2128:7A",
  "212A:6B 212B:E5 212C-212D:62 212F:65 2130-2131:65 2132:214E 2133:6D 2134:6F 2135-2138:5D0",
  "2139:69 213B:66.61.78 213C:3C0 213D:3B3 213E:3B3 213F:3C0 2140:2211 2145:64 2146-2147:64",
  "2148-2149:69 2150:31.2044.37 2151:31.2044.39 2152:31.2044.31.30 2153:31.2044.33",
  "2154:32.2044.33 2155:31.2044.35 2156:32.2044.35 2157:33.2044.35 2158:34.2044.35",
  "2159:31.2044.36 215A:35.2044.36 215B:31.2044.38 215C:33.2044.38 215D:35.2044.38",
  "215E:37.2044.38 215F:31.2044 2160:69 2161:69.69 2162:69.69.69 2163:69.76 2164:76 2165:76.69",
  "2166:76.69.69 2167:76.69.69.69 2168:69.78 2169:78 216A:78.69 216B:78.69.69 216C:6C",
  "216D-216E:63 216F:6D 2170:69 2171:69.69 2172:69.69.69 2173:69.76 2174:76 2175:76.69",
  "2176:76.69.69 2177:76.69.69.69 2178:69.78 2179:78 217A:78.69 217B:78.69.69 217C:6C",
  "217D-217E:63 217F:6D 2183:2184 2189:30.2044.33 218C-218F:! 222C:222B.222B 222D:222B.222B.222B",
  "222F:222E.222E 2230:222E.222E.222E 2329-232A:3008 242A-243F:! 244B-245F:! 2460-2468:31",
  "2469:31.30 246A:31.31 246B:31.32 246C:31.33 246D:31.34 246E:31.35 246F:31.36 2470:31.37",
  "2471:31.38 2472:31.39 2473:32.30 2474:28.31.29 2475:28.32.29 2476:28.33.29 2477:28.34.29",
  "2478:28.35.29 2479:28.36.29 247A:28.37.29 247B:28.38.29 247C:28.39.29 247D:28.31.30.29",
  "247E:28.31.31.29 247F:28.31.32.29 2480:28.31.33.29 2481:28.31.34.29 2482:28.31.35.29",
  "2483:28.31.36.29 2484:28.31.37.29 2485:28.31.38.29 2486:28.31.39.29 2487:28.32.30.29",
  "2488-249B:! 249C:28.61.29 249D:28.62.29 249E:28.63.29 249F:28.64.29 24A0:28.65.29",
  "24A1:28.66.29 24A2:28.67.29 24A3:28.68.29 24A4:28.69.29 24A5:28.6A.29 24A6:28.6B.29",
  "24A7:28.6C.29 24A8:28.6D.29 24A9:28.6E.29 24AA:28.6F.29 24AB:28.70.29 24AC:28.71.29",
  "24AD:28.72.29 24AE:28.73.29 24AF:28.74.29 24B0:28.75.29 24B1:28.76.29 24B2:28.77.29",
  "24B3:28.78.29 24B4:28.79.29 24B5:28.7A.29 24B6-24CF:61 24D0-24E9:61 24EA:30",
  "2A0C:222B.222B.222B.222B 2A74:3A.3A.3D 2A75:3D.3D 2A76:3D.3D.3D 2ADC:2ADD.338 2B74-2B75:!",
  "2C00-2C2F:2C30 2C60:2C61 2C62:26B 2C63:1D7D 2C64:27D 2C67-2C6B/2:2C68 2C6D:251 2C6E:271",
  "2C6F:250 2C70:252 2C72:2C73 2C75:2C76 2C7C:6A 2C7D:76 2C7E-2C7F:23F 2C80-2CE2/2:2C81",
  "2CEB-2CED/2:2CEC 2CF2:2CF3 2CF4-2CF8:! 2D26:! 2D28-2D2C:! 2D2E-2D2F:! 2D68-2D6E:! 2D6F:2D61",
  "2D71-2D7E:! 2D97-2D9F:! 2DA7:! 2DAF:! 2DB7:! 2DBF:! 2DC7:! 2DCF:! 2DD7:! 2DDF:! 2E5E-2E7F:!",
  "2E9A:! 2E9F:6BCD 2EF3:9F9F 2EF4-2EFF:! 2F00:4E00 2F01:4E28 2F02:4E36 2F03:4E3F 2F04:4E59",
  "2F05:4E85 2F06:4E8C 2F07:4EA0 2F08:4EBA 2F09:513F 2F0A:5165 2F0B:516B 2F0C:5182 2F0D:5196",
  "2F0E:51AB 2F0F:51E0 2F10:51F5 2F11:5200 2F12:529B 2F13:52F9 2F14:5315 2F15:531A 2F16:5338",
  "2F17:5341 2F18:535C 2F19:5369 2F1A:5382 2F1B:53B6 2F1C:53C8 2F1D:53E3 2F1E:56D7 2F1F:571F",
  "2F20:58EB 2F21:5902 2F22:590A 2F23:5915 2F24:5927 2F25:5973 2F26:5B50 2F27:5B80 2F28:5BF8",
  "2F29:5C0F 2F2A:5C22 2F2B:5C38 2F2C:5C6E 2F2D:5C71 2F2E:5DDB 2F2F:5DE5 2F30:5DF1 2F31:5DFE",
  "2F32:5E72 2F33:5E7A 2F34:5E7F 2F35:5EF4 2F36:5EFE 2F37:5F0B 2F38:5F13 2F39:5F50 2F3A:5F61",
  "2F3B:5F73 2F3C:5FC3 2F3D:6208 2F3E:6236 2F3F:624B 2F40:652F 2F41:6534 2F42:6587 2F43:6597",
  "2F44:65A4 2F45:65B9 2F46:65E0 2F47:65E5 2F48:66F0 2F49:6708 2F4A:6728 2F4B:6B20 2F4C:6B62",
  "2F4D:6B79 2F4E:6BB3 2F4F:6BCB 2F50:6BD4 2F51:6BDB 2F52:6C0F 2F53:6C14 2F54:6C34 2F55:706B",
  "2F56:722A 2F57:7236 2F58:723B 2F59:723F 2F5A:7247 2F5B:7259 2F5C:725B 2F5D:72AC 2F5E:7384",
  "2F5F:7389 2F60:74DC 2F61:74E6 2F62:7518 2F63:751F 2F64:7528 2F65:7530 2F66:758B 2F67:7592",
  "2F68:7676 2F69:767D 2F6A:76AE 2F6B:76BF 2F6C:76EE 2F6D:77DB 2F6E:77E2 2F6F:77F3 2F70:793A",
  "2F71:79B8 2F72:79BE 2F73:7A74 2F74:7ACB 2F75:7AF9 2F76:7C73 2F77:7CF8 2F78:7F36 2F79:7F51",
  "2F7A:7F8A 2F7B:7FBD 2F7C:8001 2F7D:800C 2F7E:8012 2F7F:8033 2F80:807F 2F81:8089 2F82:81E3",
  "2F83:81EA 2F84:81F3 2F85:81FC 2F86:820C 2F87:821B 2F88:821F 2F89:826E 2F8A:8272 2F8B:8278",
  "2F8C:864D 2F8D:866B 2F8E:8840 2F8F:884C 2F90:8863 2F91:897E 2F92:898B 2F93:89D2 2F94:8A00",
  "2F95:8C37 2F96:8C46 2F97:8C55 2F98:8C78 2F99:8C9D 2F9A:8D64 2F9B:8D70 2F9C:8DB3 2F9D:8EAB",
  "2F9E:8ECA 2F9F:8F9B 2FA0:8FB0 2FA1:8FB5 2FA2:9091 2FA3:9149 2FA4:91C6 2FA5:91CC 2FA6:91D1",
  "2FA7:9577 2FA8:9580 2FA9:961C 2FAA:96B6 2FAB:96B9 2FAC:96E8 2FAD:9751 2FAE:975E 2FAF:9762",
  "2FB0:9769 2FB1:97CB 2FB2:97ED 2FB3:97F3 2FB4:9801 2FB5:98A8 2FB6:98DB 2FB7:98DF 2FB8:9996",
  "2FB9:9999 2FBA:99AC 2FBB:9AA8 2FBC:9AD8 2FBD:9ADF 2FBE:9B25 2FBF:9B2F 2FC0:9B32 2FC1:9B3C",
  "2FC2:9B5A 2FC3:9CE5 2FC4:9E75 2FC5:9E7F 2FC6:9EA5 2FC7:9EBB 2FC8:9EC3 2FC9:9ECD 2FCA:9ED1",
  "2FCB:9EF9 2FCC:9EFD 2FCD:9F0E 2FCE:9F13 2FCF:9F20 2FD0:9F3B 2FD1:9F4A 2FD2:9F52 2FD3:9F8D",
  "2FD4:9F9C 2FD5:9FA0 2FD6-2FFF:! 3000:20 3002:2E 3036:3012 3038:5341 3039-303A:5344 3040:!",
  "3097-3098:! 309B:20.3099 309C:20.309A 309F:3088.308A 30FF:30B3.30C8 3100-3104:! 3130:!",
  "3131-3132:1100 3133:11AA 3134:1102 3135-3136:11AC 3137-3139:1103 313A-313F:11B0 3140:111A",
  "3141-3143:1106 3144:1121 3145-314E:1109 314F-3163:1161 3164: 3165-3166:1114 3167-3168:11C7",
  "3169:11CC 316A:11CE 316B:11D3 316C:11D7 316D:11D9 316E:111C 316F:11DD 3170:11DF 3171-3172:111D",
  "3173:1120 3174-3175:1122 3176:1127 3177:1129 3178-317C:112B 317D:1132 317E:1136 317F:1140",
  "3180:1147 3181:114C 3182-3183:11F1 3184-3186:1157 3187-3188:1184 3189:1188 318A-318B:1191",
  "318C:1194 318D:119E 318E:11A1 318F:! 3192:4E00 3193:4E8C 3194:4E09 3195:56DB 3196:4E0A",
  "3197:4E2D 3198:4E0B 3199:7532 319A:4E59 319B:4E19 319C:4E01 319D:5929 319E:5730 319F:4EBA",
  "31E6-31EF:! 3200:28.1100.29 3201:28.1102.29 3202:28.1103.29 3203:28.1105.29 3204:28.1106.29",
  "3205:28.1107.29 3206:28.1109.29 3207:28.110B.29 3208:28.110C.29 3209:28.110E.29",
  "320A:28.110F.29 320B:28.1110.29 320C:28.1111.29 320D:28.1112.29 320E:28.AC00.29",
  "320F:28.B098.29 3210:28.B2E4.29 3211:28.B77C.29 3212:28.B9C8.29 3213:28.BC14.29",
  "3214:28.C0AC.29 3215:28.C544.29 3216:28.C790.29 3217:28.CC28.29 3218:28.CE74.29",
  "3219:28.D0C0.29 321A:28.D30C.29 321B:28.D558.29 321C:28.C8FC.29 321D:28.C624.C804.29",
  "321E:28.C624.D6C4.29 321F:! 3220:28.4E00.29 3221:28.4E8C.29 3222:28.4E09.29 3223:28.56DB.29",
  "3224:28.4E94.29 3225:28.516D.29 3226:28.4E03.29 3227:28.516B.29 3228:28.4E5D.29",
  "3229:28.5341.29 322A:28.6708.29 322B:28.706B.29 322C:28.6C34.29 322D:28.6728.29",
  "322E:28.91D1.29 322F:28.571F.29 3230:28.65E5.29 3231:28.682A.29 3232:28.6709.29",
  "3233:28.793E.29 3234:28.540D.29 3235:28.7279.29 3236:28.8CA1.29 3237:28.795D.29",
  "3238:28.52B4.29 3239:28.4EE3.29 323A:28.547C.29 323B:28.5B66.29 323C:28.76E3.29",
  "323D:28.4F01.29 323E:28.8CC7.29 323F:28.5354.29 3240:28.796D.29 3241:28.4F11.29",
  "3242:28.81EA.29 3243:28.81F3.29 3244:554F 3245:5E7C 3246:6587 3247:7B8F 3250:70.74.65",
  "3251:32.31 3252:32.32 3253:32.33 3254:32.34 3255:32.35 3256:32.36 3257:32.37 3258:32.38",
  "3259:32.39 325A:33.30 325B:33.31 325C:33.32 325D:33.33 325E:33.34 325F:33.35 3260:1100",
  "3261-3262:1102 3263-3265:1105 3266:1109 3267-3268:110B 3269-326D:110E 326E:AC00 326F:B098",
  "3270:B2E4 3271:B77C 3272:B9C8 3273:BC14 3274:C0AC 3275:C544 3276:C790 3277:CC28 3278:CE74",
  "3279:D0C0 327A:D30C 327B:D558 327C:CC38.ACE0 327D:C8FC.C758 327E:C6B0 3280:4E00 3281:4E8C",
  "3282:4E09 3283:56DB 3284:4E94 3285:516D 3286:4E03 3287:516B 3288:4E5D 3289:5341 328A:6708",
  "328B:706B 328C:6C34 328D:6728 328E:91D1 328F:571F 3290:65E5 3291:682A 3292:6709 3293:793E",
  "3294:540D 3295:7279 3296:8CA1 3297:795D 3298:52B4 3299:79D8 329A:7537 329B:5973 329C:9069",
  "329D:512A 329E:5370 329F:6CE8 32A0:9805 32A1:4F11 32A2:5199 32A3:6B63 32A4:4E0A 32A5:4E2D",
  "32A6:4E0B 32A7:5DE6 32A8:53F3 32A9:533B 32AA:5B97 32AB:5B66 32AC:76E3 32AD:4F01 32AE:8CC7",
  "32AF:5354 32B0:591C 32B1:33.36 32B2:33.37 32B3:33.38 32B4:33.39 32B5:34.30 32B6:34.31",
  "32B7:34.32 32B8:34.33 32B9:34.34 32BA:34.35 32BB:34.36 32BC:34.37 32BD:34.38 32BE:34.39",
  "32BF:35.30 32C0:31.6708 32C1:32.6708 32C2:33.6708 32C3:34.6708 32C4:35.6708 32C5:36.6708",
  "32C6:37.6708 32C7:38.6708 32C8:39.6708 32C9:31.30.6708 32CA:31.31.6708 32CB:31.32.6708",
  "32CC:68.67 32CD:65.72.67 32CE:65.76 32CF:6C.74.64 32D0:30A2 32D1:30A4 32D2:30A6 32D3:30A8",
  "32D4-32D5:30AA 32D6:30AD 32D7:30AF 32D8:30B1 32D9:30B3 32DA:30B5 32DB:30B7 32DC:30B9 32DD:30BB",
  "32DE:30BD 32DF:30BF 32E0:30C1 32E1:30C4 32E2:30C6 32E3:30C8 32E4-32E9:30CA 32EA:30D2 32EB:30D5",
  "32EC:30D8 32ED:30DB 32EE-32F2:30DE 32F3:30E4 32F4:30E6 32F5-32FA:30E8 32FB-32FE:30EF",
  "32FF:4EE4.548C 3300:30A2.30D1.30FC.30C8 3301:30A2.30EB.30D5.30A1 3302:30A2.30F3.30DA.30A2",
  "3303:30A2.30FC.30EB 3304:30A4.30CB.30F3.30B0 3305:30A4.30F3.30C1 3306:30A6.30A9.30F3",
  "3307:30A8.30B9.30AF.30FC.30C9 3308:30A8.30FC.30AB.30FC 3309:30AA.30F3.30B9 330A:30AA.30FC.30E0",
  "330B:30AB.30A4.30EA 330C:30AB.30E9.30C3.30C8 330D:30AB.30ED.30EA.30FC 330E:30AC.30ED.30F3",
  "330F:30AC.30F3.30DE 3310:30AE.30AC 3311:30AE.30CB.30FC 3312:30AD.30E5.30EA.30FC",
  "3313:30AE.30EB.30C0.30FC 3314:30AD.30ED 3315:30AD.30ED.30B0.30E9.30E0",
  "3316:30AD.30ED.30E1.30FC.30C8.30EB 3317:30AD.30ED.30EF.30C3.30C8 3318:30B0.30E9.30E0",
  "3319:30B0.30E9.30E0.30C8.30F3 331A:30AF.30EB.30BC.30A4.30ED 331B:30AF.30ED.30FC.30CD",
  "331C:30B1.30FC.30B9 331D:30B3.30EB.30CA 331E:30B3.30FC.30DD 331F:30B5.30A4.30AF.30EB",
  "3320:30B5.30F3.30C1.30FC.30E0 3321:30B7.30EA.30F3.30B0 3322:30BB.30F3.30C1 3323:30BB.30F3.30C8",
  "3324:30C0.30FC.30B9 3325:30C7.30B7 3326:30C9.30EB 3327:30C8.30F3 3328:30CA.30CE",
  "3329:30CE.30C3.30C8 332A:30CF.30A4.30C4 332B:30D1.30FC.30BB.30F3.30C8 332C:30D1.30FC.30C4",
  "332D:30D0.30FC.30EC.30EB 332E:30D4.30A2.30B9.30C8.30EB 332F:30D4.30AF.30EB 3330:30D4.30B3",
  "3331:30D3.30EB 3332:30D5.30A1.30E9.30C3.30C9 3333:30D5.30A3.30FC.30C8",
  "3334:30D6.30C3.30B7.30A7.30EB 3335:30D5.30E9.30F3 3336:30D8.30AF.30BF.30FC.30EB 3337:30DA.30BD",
  "3338:30DA.30CB.30D2 3339:30D8.30EB.30C4 333A:30DA.30F3.30B9 333B:30DA.30FC.30B8",
  "333C:30D9.30FC.30BF 333D:30DD.30A4.30F3.30C8 333E:30DC.30EB.30C8 333F:30DB.30F3",
  "3340:30DD.30F3.30C9 3341:30DB.30FC.30EB 3342:30DB.30FC.30F3 3343:30DE.30A4.30AF.30ED",
  "3344:30DE.30A4.30EB 3345:30DE.30C3.30CF 3346:30DE.30EB.30AF 3347:30DE.30F3.30B7.30E7.30F3",
  "3348:30DF.30AF.30ED.30F3 3349:30DF.30EA 334A:30DF.30EA.30D0.30FC.30EB 334B:30E1.30AC",
  "334C:30E1.30AC.30C8.30F3 334D:30E1.30FC.30C8.30EB 334E:30E4.30FC.30C9 334F:30E4.30FC.30EB",
  "3350:30E6.30A2.30F3 3351:30EA.30C3.30C8.30EB 3352:30EA.30E9 3353:30EB.30D4.30FC",
  "3354:30EB.30FC.30D6.30EB 3355:30EC.30E0 3356:30EC.30F3.30C8.30B2.30F3 3357:30EF.30C3.30C8",
  "3358:30.70B9 3359:31.70B9 335A:32.70B9 335B:33.70B9 335C:34.70B9 335D:35.70B9 335E:36.70B9",
  "335F:37.70B9 3360:38.70B9 3361:39.70B9 3362:31.30.70B9 3363:31.31.70B9 3364:31.32.70B9",
  "3365:31.33.70B9 3366:31.34.70B9 3367:31.35.70B9 3368:31.36.70B9 3369:31.37.70B9",
  "336A:31.38.70B9 336B:31.39.70B9 336C:32.30.70B9 336D:32.31.70B9 336E:32.32.70B9",
  "336F:32.33.70B9 3370:32.34.70B9 3371:68.70.61 3372:64.61 3373:61.75 3374:62.61.72 3375:6F.76",
  "3376:70.63 3377:64.6D 3378:64.6D.32 3379:64.6D.33 337A:69.75 337B:5E73.6210 337C:662D.548C",
  "337D:5927.6B63 337E:660E.6CBB 337F:682A.5F0F.4F1A.793E 3380:70.61 3381:6E.61 3382:3BC.61",
  "3383:6D.61 3384:6B.61 3385:6B.62 3386:6D.62 3387:67.62 3388:63.61.6C 3389:6B.63.61.6C",
  "338A:70.66 338B:6E.66 338C:3BC.66 338D:3BC.67 338E:6D.67 338F:6B.67 3390:68.7A 3391:6B.68.7A",
  "3392:6D.68.7A 3393:67.68.7A 3394:74.68.7A 3395:3BC.6C 3396:6D.6C 3397:64.6C 3398:6B.6C",
  "3399:66.6D 339A:6E.6D 339B:3BC.6D 339C:6D.6D 339D:63.6D 339E:6B.6D 339F:6D.6D.32 33A0:63.6D.32",
  "33A1:6D.32 33A2:6B.6D.32 33A3:6D.6D.33 33A4:63.6D.33 33A5:6D.33 33A6:6B.6D.33 33A7:6D.2215.73",
  "33A8:6D.2215.73.32 33A9:70.61 33AA:6B.70.61 33AB:6D.70.61 33AC:67.70.61 33AD:72.61.64",
  "33AE:72.61.64.2215.73 33AF:72.61.64.2215.73.32 33B0:70.73 33B1:6E.73 33B2:3BC.73 33B3:6D.73",
  "33B4:70.76 33B5:6E.76 33B6:3BC.76 33B7:6D.76 33B8:6B.76 33B9:6D.76 33BA:70.77 33BB:6E.77",
  "33BC:3BC.77 33BD:6D.77 33BE:6B.77 33BF:6D.77 33C0:6B.3C9 33C1:6D.3C9 33C2:! 33C3:62.71",
  "33C4:63.63 33C5:63.64 33C6:63.2215.6B.67 33C7:! 33C8:64.62 33C9:67.79 33CA:68.61 33CB:68.70",
  "33CC:69.6E 33CD:6B.6B 33CE:6B.6D 33CF:6B.74 33D0:6C.6D 33D1:6C.6E 33D2:6C.6F.67 33D3:6C.78",
  "33D4:6D.62 33D5:6D.69.6C 33D6:6D.6F.6C 33D7:70.68 33D8:! 33D9:70.70.6D 33DA:70.72 33DB:73.72",
  "33DC:73.76 33DD:77.62 33DE:76.2215.6D 33DF:61.2215.6D 33E0:31.65E5 33E1:32.65E5 33E2:33.65E5",
  "33E3:34.65E5 33E4:35.65E5 33E5:36.65E5 33E6:37.65E5 33E7:38.65E5 33E8:39.65E5 33E9:31.30.65E5",
  "33EA:31.31.65E5 33EB:31.32.65E5 33EC:31.33.65E5 33ED:31.34.65E5 33EE:31.35.65E5",
  "33EF:31.36.65E5 33F0:31.37.65E5 33F1:31.38.65E5 33F2:31.39.65E5 33F3:32.30.65E5",
  "33F4:32.31.65E5 33F5:32.32.65E5 33F6:32.33.65E5 33F7:32.34.65E5 33F8:32.35.65E5",
  "33F9:32.36.65E5 33FA:32.37.65E5 33FB:32.38.65E5 33FC:32.39.65E5 33FD:33.30.65E5",
  "33FE:33.31.65E5 33FF:67.61.6C A48D-A48F:! A4C7-A4CF:! A62C-A63F:! A640-A66C/2:A641",
  "A680-A69A/2:A681 A69C:44A A69D:44C A6F8-A6FF:! A722-A72E/2:A723 A732-A76E/2:A733 A770:A76F",
  "A779-A77B/2:A77A A77D:1D79 A77E-A786/2:A77F A78B:A78C A78D:265 A790-A792/2:A791",
  "A796-A7A8/2:A797 A7AA:266 A7AB:25C A7AC:261 A7AD:26C A7AE:26A A7B0:29E A7B1:287 A7B2:29D",
  "A7B3:AB53 A7B4-A7C2/2:A7B5 A7C4:A794 A7C5:282 A7C6:1D8E A7C7-A7C9/2:A7C8 A7CB:264",
  "A7CC-A7DA/2:A7CD A7DC:19B A7DD-A7F0:! A7F1:73 A7F2:63 A7F3:66 A7F4:71 A7F5:A7F6 A7F8:127",
  "A7F9:153 A82D-A82F:! A83A-A83F:! A878-A87F:! A8C6-A8CD:! A8DA-A8DF:! A954-A95E:! A97D-A97F:!",
  "A9CE:! A9DA-A9DD:! A9FF:! AA37-AA3F:! AA4E-AA4F:! AA5A-AA5B:! AAC3-AADA:! AAF7-AB00:!",
  "AB07-AB08:! AB0F-AB10:! AB17-AB1F:! AB27:! AB2F:! AB5C:A727 AB5D:AB37 AB5E:26B AB5F:AB52",
  "AB69:28D AB6C-AB6F:! AB70-ABBF:13A0 ABEE-ABEF:! ABFA-ABFF:! D7A4-D7AF:! D7C7-D7CA:!",
  "D7FC-F8FF:!"]

end ClassAtlas.Uri.Name
