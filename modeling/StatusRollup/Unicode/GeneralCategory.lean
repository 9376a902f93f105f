import StatusRollup.Unicode.Table

/-!
# General categories

The general category of each code point, in two letters of which the first one names the group.
-/

namespace StatusRollup.Unicode

/-- The general categories in runs. -/
def categoryTable : String :=
  "Cc1F Zs Po2 Sc Po2 Ps Pe Po Sm Po Pd Po1 Nd9 Po1 Sm2 Po1 Lu19 Ps Po Pe Sk Pc Sk Ll19 Ps Sm Pe Sm
Cc20 Zs Po Sc3 So Po Sk So Lo Pi Sm Cf So Sk So Sm No1 Sk Ll Po1 Sk No Lo Pf No2 Po Lu16 Sm Lu6
Ll17 Sm Ll7 Lu Ll Lu Ll Lu Ll Lu Ll Lu Ll Lu Ll Lu Ll Lu Ll Lu Ll Lu Ll Lu Ll Lu Ll Lu Ll Lu Ll Lu
Ll Lu Ll Lu Ll Lu Ll Lu Ll Lu Ll Lu Ll Lu Ll Lu Ll Lu Ll Lu Ll Lu Ll Lu Ll Lu Ll1 Lu Ll Lu Ll Lu
Ll Lu Ll Lu Ll Lu Ll Lu Ll Lu Ll1 Lu Ll Lu Ll Lu Ll Lu Ll Lu Ll Lu Ll Lu Ll Lu Ll Lu Ll Lu Ll Lu
Ll Lu Ll Lu Ll Lu Ll Lu Ll Lu Ll Lu Ll Lu Ll Lu Ll Lu Ll Lu Ll Lu Ll Lu Ll Lu1 Ll Lu Ll Lu Ll2 Lu1
Ll Lu Ll Lu1 Ll Lu2 Ll1 Lu3 Ll Lu1 Ll Lu2 Ll2 Lu1 Ll Lu1 Ll Lu Ll Lu Ll Lu1 Ll Lu Ll1 Lu Ll Lu1 Ll
Lu2 Ll Lu Ll Lu1 Ll1 Lo Lu Ll2 Lo3 Lu Lt Ll Lu Lt Ll Lu Lt Ll Lu Ll Lu Ll Lu Ll Lu Ll Lu Ll Lu Ll
Lu Ll Lu Ll1 Lu Ll Lu Ll Lu Ll Lu Ll Lu Ll Lu Ll Lu Ll Lu Ll Lu Ll1 Lu Lt Ll Lu Ll Lu2 Ll Lu Ll Lu
Ll Lu Ll Lu Ll Lu Ll Lu Ll Lu Ll Lu Ll Lu Ll Lu Ll Lu Ll Lu Ll Lu Ll Lu Ll Lu Ll Lu Ll Lu Ll Lu Ll
Lu Ll Lu Ll Lu Ll Lu Ll Lu Ll Lu Ll Lu Ll Lu Ll Lu Ll Lu Ll Lu Ll6 Lu1 Ll Lu1 Ll1 Lu Ll Lu3 Ll Lu
Ll Lu Ll Lu Ll Lu Ll44 Lo Ll1A Lm11 Sk3 LmB SkD Lm4 Sk6 Lm Sk Lm Sk10 Mn6F Lu Ll Lu Ll Lm Sk Lu Ll
Cn1 Lm Ll2 Po Lu Cn3 Sk1 Lu Po Lu2 Cn Lu Cn Lu1 Ll Lu10 Cn Lu8 Ll22 Lu Ll1 Lu2 Ll2 Lu Ll Lu Ll Lu
Ll Lu Ll Lu Ll Lu Ll Lu Ll Lu Ll Lu Ll Lu Ll Lu Ll Lu Ll4 Lu Ll Sm Lu Ll Lu1 Ll1 Lu32 Ll2F Lu Ll
Lu Ll Lu Ll Lu Ll Lu Ll Lu Ll Lu Ll Lu Ll Lu Ll Lu Ll Lu Ll Lu Ll Lu Ll Lu Ll Lu Ll Lu Ll Lu Ll So
Mn4 Me1 Lu Ll Lu Ll Lu Ll Lu Ll Lu Ll Lu Ll Lu Ll Lu Ll Lu Ll Lu Ll Lu Ll Lu Ll Lu Ll Lu Ll Lu Ll
Lu Ll Lu Ll Lu Ll Lu Ll Lu Ll Lu Ll Lu Ll Lu Ll Lu Ll Lu Ll Lu Ll Lu Ll Lu1 Ll Lu Ll Lu Ll Lu Ll
Lu Ll Lu Ll Lu Ll1 Lu Ll Lu Ll Lu Ll Lu Ll Lu Ll Lu Ll Lu Ll Lu Ll Lu Ll Lu Ll Lu Ll Lu Ll Lu Ll
Lu Ll Lu Ll Lu Ll Lu Ll Lu Ll Lu Ll Lu Ll Lu Ll Lu Ll Lu Ll Lu Ll Lu Ll Lu Ll Lu Ll Lu Ll Lu Ll Lu
Ll Lu Ll Lu Ll Lu Ll Lu Ll Lu Ll Lu Ll Lu Ll Lu Ll Lu Ll Lu Ll Lu Ll Lu Ll Lu Ll Lu Ll Lu Ll Lu Ll
Lu Ll Lu Ll Cn Lu25 Cn1 Lm Po5 Ll28 Po Pd Cn1 So1 Sc Cn Mn2C Pd Mn Po Mn1 Po Mn1 Po Mn Cn7 Lo1A
Cn3 Lo3 Po1 CnA Cf5 Sm2 Po1 Sc Po1 So1 MnA Po Cf Po2 Lo1F Lm Lo9 Mn14 Nd9 Po3 Lo1 Mn Lo62 Po Lo
Mn6 Cf So Mn5 Lm1 Mn1 So Mn3 Lo1 Nd9 Lo2 So1 Lo PoD Cn Cf Lo Mn Lo1D Mn1A Cn1 Lo58 MnA Lo CnD Nd9
Lo20 Mn8 Lm1 So Po2 Lm Cn1 Mn Sc1 Lo15 Mn3 Lm Mn8 Lm Mn2 Lm Mn4 Cn1 PoE Cn Lo18 Mn2 Cn1 Po Cn LoA
Cn4 Lo17 Sk Lo5 Cn Cf1 Cn5 Mn7 Lo28 Lm Mn17 Cf Mn1F Mc Lo35 Mn Mc Mn Lo Mc2 Mn7 Mc3 Mn Mc1 Lo Mn6
Lo9 Mn1 Po1 Nd9 Po Lm LoE Mn Mc1 Cn Lo7 Cn1 Lo1 Cn1 Lo15 Cn Lo6 Cn Lo Cn2 Lo3 Cn1 Mn Lo Mc2 Mn3
Cn1 Mc1 Cn1 Mc1 Mn Lo Cn7 Mc Cn3 Lo1 Cn Lo2 Mn1 Cn1 Nd9 Lo1 Sc1 No5 So Sc Lo Po Mn Cn1 Mn1 Mc Cn
Lo5 Cn3 Lo1 Cn1 Lo15 Cn Lo6 Cn Lo1 Cn Lo1 Cn Lo1 Cn1 Mn Cn Mc2 Mn1 Cn3 Mn1 Cn1 Mn2 Cn2 Mn Cn6 Lo3
Cn Lo Cn6 Nd9 Mn1 Lo2 Mn Po Cn9 Mn1 Mc Cn Lo8 Cn Lo2 Cn Lo15 Cn Lo6 Cn Lo1 Cn Lo4 Cn1 Mn Lo Mc2
Mn4 Cn Mn1 Mc Cn Mc1 Mn Cn1 Lo CnE Lo1 Mn1 Cn1 Nd9 Po Sc Cn6 Lo Mn5 Cn Mn Mc1 Cn Lo7 Cn1 Lo1 Cn1
Lo15 Cn Lo6 Cn Lo1 Cn Lo4 Cn1 Mn Lo Mc Mn Mc Mn3 Cn1 Mc1 Cn1 Mc1 Mn Cn6 Mn1 Mc Cn3 Lo1 Cn Lo2 Mn1
Cn1 Nd9 So Lo No5 Cn9 Mn Lo Cn Lo5 Cn2 Lo2 Cn Lo3 Cn2 Lo1 Cn Lo Cn Lo1 Cn2 Lo1 Cn2 Lo2 Cn2 LoB Cn3
Mc1 Mn Mc1 Cn2 Mc2 Cn Mc2 Mn Cn1 Lo Cn5 Mc CnD Nd9 No2 So5 Sc So Cn4 Mn Mc2 Mn Lo7 Cn Lo2 Cn Lo16
Cn LoF Cn1 Mn Lo Mn2 Mc3 Cn Mn2 Cn Mn3 Cn6 Mn1 Cn Lo2 Cn1 Lo Cn1 Lo1 Mn1 Cn1 Nd9 Cn6 Po No6 So Lo
Mn Mc1 Po Lo7 Cn Lo2 Cn Lo16 Cn Lo9 Cn Lo4 Cn1 Mn Lo Mc Mn Mc4 Cn Mn Mc1 Cn Mc1 Mn1 Cn6 Mc1 Cn5
Lo1 Cn Lo1 Mn1 Cn1 Nd9 Cn Lo1 Mc CnB Mn1 Mc1 Lo8 Cn Lo2 Cn Lo28 Mn1 Lo Mc2 Mn3 Cn Mc2 Cn Mc2 Mn Lo
So Cn3 Lo2 Mc No6 Lo2 Mn1 Cn1 Nd9 No8 So Lo5 Cn Mn Mc1 Cn Lo11 Cn2 Lo17 Cn Lo8 Cn Lo Cn1 Lo6 Cn2
Mn Cn3 Mc2 Mn2 Cn Mn Cn Mc7 Cn5 Nd9 Cn1 Mc1 Po CnB Lo2F Mn Lo1 Mn6 Cn3 Sc Lo5 Lm Mn7 Po Nd9 Po1
Cn24 Lo1 Cn Lo Cn Lo4 Cn Lo17 Cn Lo Cn Lo9 Mn Lo1 Mn8 Lo Cn1 Lo4 Cn Lm Cn Mn6 Cn Nd9 Cn1 Lo3 Cn1F
Lo So2 PoE So Po So2 Mn1 So5 Nd9 No9 So Mn So Mn So Mn Ps Pe Ps Pe Mc1 Lo7 Cn Lo23 Cn3 MnD Mc Mn4
Po Mn1 Lo4 MnA Cn Mn23 Cn So7 Mn So5 Cn So1 Po4 So3 Po1 Cn24 Lo2A Mc1 Mn3 Mc Mn5 Mc Mn1 Mc1 Mn1 Lo
Nd9 Po5 Lo5 Mc1 Mn1 Lo3 Mn2 Lo Mc2 Lo1 Mc6 Lo2 Mn3 LoC Mn Mc1 Mn1 Mc5 Mn Lo Mc Nd9 Mc2 Mn So1 Lu25
Cn Lu Cn4 Lu Cn1 Ll2A Po Lm Ll2 Lo148 Cn Lo3 Cn1 Lo6 Cn Lo Cn Lo3 Cn1 Lo28 Cn Lo3 Cn1 Lo20 Cn Lo3
Cn1 Lo6 Cn Lo Cn Lo3 Cn1 LoE Cn Lo38 Cn Lo3 Cn1 Lo42 Cn1 Mn2 Po8 No13 Cn2 LoF So9 Cn5 Lu55 Cn1 Ll5
Cn1 Pd Lo26B So Po Lo10 Zs Lo19 Ps Pe Cn2 Lo4A Po2 Nl2 Lo7 Cn6 Lo11 Mn2 Mc Cn8 Lo12 Mn1 Mc Po1 Cn8
Lo11 Mn1 CnB LoC Cn Lo2 Cn Mn1 CnB Lo33 Mn1 Mc Mn6 Mc7 Mn Mc1 MnA Po2 Lm Po2 Sc Lo Mn Cn1 Nd9 Cn5
No9 Cn5 Po5 Pd Po3 Mn2 Cf Mn Nd9 Cn5 Lo22 Lm Lo34 Cn6 Lo4 Mn1 Lo21 Mn Lo Cn4 Lo45 Cn9 Lo1E Cn Mn2
Mc3 Mn1 Mc2 Cn3 Mc1 Mn Mc5 Mn2 Cn3 So Cn2 Po1 Nd9 Lo1D Cn1 Lo4 CnA Lo2B Cn3 Lo19 Cn5 Nd9 No Cn2
So21 Lo16 Mn1 Mc1 Mn Cn1 Po1 Lo34 Mc Mn Mc Mn6 Cn Mn Mc Mn Mc1 Mn7 Mc5 Mn9 Cn1 Mn Nd9 Cn5 Nd9 Cn5
Po6 Lm Po5 Cn1 MnD Me MnF Cn30 Mn3 Mc Lo2E Mn Mc Mn4 Mc Mn Mc4 Mn Mc1 Lo7 Cn2 Nd9 Po6 So9 Mn8 So8
Po1 Cn Mn1 Mc Lo1D Mc Mn3 Mc1 Mn1 Mc Mn2 Lo1 Nd9 Lo2B Mn Mc Mn1 Mc2 Mn Mc Mn2 Mc1 Cn7 Po3 Lo23 Mc7
Mn7 Mc1 Mn1 Cn2 Po4 Nd9 Cn2 Lo2 Nd9 Lo1D Lm5 Po1 Ll8 Cn6 Lu2A Cn1 Lu2 Po7 Cn7 Mn2 Po MnC Mc Mn6
Lo3 Mn Lo5 Mn Lo1 Mc Mn1 Lo Cn4 Ll2B Lm3E LlC Lm Ll21 Lm24 Mn3F Lu Ll Lu Ll Lu Ll Lu Ll Lu Ll Lu
Ll Lu Ll Lu Ll Lu Ll Lu Ll Lu Ll Lu Ll Lu Ll Lu Ll Lu Ll Lu Ll Lu Ll Lu Ll Lu Ll Lu Ll Lu Ll Lu Ll
Lu Ll Lu Ll Lu Ll Lu Ll Lu Ll Lu Ll Lu Ll Lu Ll Lu Ll Lu Ll Lu Ll Lu Ll Lu Ll Lu Ll Lu Ll Lu Ll Lu
Ll Lu Ll Lu Ll Lu Ll Lu Ll Lu Ll Lu Ll Lu Ll Lu Ll Lu Ll Lu Ll Lu Ll Lu Ll Lu Ll Lu Ll Lu Ll Lu Ll
Lu Ll Lu Ll Lu Ll Lu Ll Lu Ll Lu Ll Lu Ll Lu Ll Lu Ll Lu Ll Lu Ll Lu Ll Lu Ll Lu Ll Lu Ll Lu Ll Lu
Ll Lu Ll Lu Ll Lu Ll8 Lu Ll Lu Ll Lu Ll Lu Ll Lu Ll Lu Ll Lu Ll Lu Ll Lu Ll Lu Ll Lu Ll Lu Ll Lu
Ll Lu Ll Lu Ll Lu Ll Lu Ll Lu Ll Lu Ll Lu Ll Lu Ll Lu Ll Lu Ll Lu Ll Lu Ll Lu Ll Lu Ll Lu Ll Lu Ll
Lu Ll Lu Ll Lu Ll Lu Ll Lu Ll Lu Ll Lu Ll Lu Ll Lu Ll Lu Ll Lu Ll Lu Ll Lu Ll Lu Ll Lu Ll Lu Ll Lu
Ll Lu Ll Lu Ll Lu Ll8 Lu7 Ll5 Cn1 Lu5 Cn1 Ll7 Lu7 Ll7 Lu7 Ll5 Cn1 Lu5 Cn1 Ll7 Cn Lu Cn Lu Cn Lu Cn
Lu Ll7 Lu7 LlD Cn1 Ll7 Lt7 Ll7 Lt7 Ll7 Lt7 Ll4 Cn Ll1 Lu3 Lt Sk Ll Sk2 Ll2 Cn Ll1 Lu3 Lt Sk2 Ll3
Cn1 Ll1 Lu3 Cn Sk2 Ll7 Lu4 Sk2 Cn1 Ll2 Cn Ll1 Lu3 Lt Sk1 Cn ZsA Cf4 Pd5 Po1 Pi Pf Ps Pi1 Pf Ps Pi
Po7 Zl Zp Cf4 Zs Po8 Pi Pf Po3 Pc1 Po2 Sm Ps Pe PoA Sm Po Pc Po9 Zs Cf4 Cn Cf9 No Lm Cn1 No5 Sm2
Ps Pe Lm No9 Sm2 Ps Pe Cn LmC Cn2 Sc20 CnE MnC Me3 Mn Me2 MnB CnE So1 Lu So3 Lu So1 Ll Lu2 Ll1 Lu2
Ll So Lu So1 Sm Lu4 So5 Lu So Lu So Lu So Lu3 So Ll Lu3 Ll Lo3 Ll So1 Ll1 Lu1 Sm4 Lu Ll3 So Sm So1
Ll So NoF Nl22 Lu Ll Nl3 No So1 Cn3 Sm4 So4 Sm1 So3 Sm So1 Sm So1 Sm So6 Sm So1E Sm1 So1 Sm So Sm
So1E Sm10B So7 Ps Pe Ps Pe So13 Sm1 So6 Ps Pe So50 Sm So1D Sm18 So27 Sm5 So44 Cn18 SoA Cn14 No3B
So4D No15 SoB6 Sm So8 Sm So35 Sm7 So6E Sm SoF7 Ps Pe Ps Pe Ps Pe Ps Pe Ps Pe Ps Pe Ps Pe No1D So2B
Sm4 Ps Pe Sm1E Ps Pe Ps Pe Ps Pe Ps Pe Ps Pe SmF SoFF Sm82 Ps Pe Ps Pe Ps Pe Ps Pe Ps Pe Ps Pe Ps
Pe Ps Pe Ps Pe Ps Pe Ps Pe Sm3E Ps Pe Ps Pe Sm1F Ps Pe Sm101 So2F Sm14 So1 Sm5 So26 Cn1 So1F Cn
So68 Lu2F Ll2F Lu Ll Lu2 Ll1 Lu Ll Lu Ll Lu Ll Lu3 Ll Lu Ll1 Lu Ll5 Lm1 Lu2 Ll Lu Ll Lu Ll Lu Ll
Lu Ll Lu Ll Lu Ll Lu Ll Lu Ll Lu Ll Lu Ll Lu Ll Lu Ll Lu Ll Lu Ll Lu Ll Lu Ll Lu Ll Lu Ll Lu Ll Lu
Ll Lu Ll Lu Ll Lu Ll Lu Ll Lu Ll Lu Ll Lu Ll Lu Ll Lu Ll Lu Ll Lu Ll Lu Ll Lu Ll Lu Ll Lu Ll Lu Ll
Lu Ll Lu Ll Lu Ll Lu Ll Lu Ll Lu Ll Lu Ll Lu Ll Lu Ll Lu Ll Lu Ll Lu Ll Lu Ll1 So5 Lu Ll Lu Ll Mn2
Lu Ll Cn4 Po3 No Po1 Ll25 Cn Ll Cn4 Ll Cn1 Lo37 Cn6 Lm Po CnD Mn Lo16 Cn8 Lo6 Cn Lo6 Cn Lo6 Cn Lo6
Cn Lo6 Cn Lo6 Cn Lo6 Cn Lo6 Cn Mn1F Po1 Pi Pf Pi Pf Po2 Pi Pf Po Pi Pf Po8 Pd Po1 Pd Po Pi Pf Po1
Pi Pf Ps Pe Ps Pe Ps Pe Ps Pe Po4 Lm Po9 Pd1 Po3 Pd Po Ps PoC So1 Po2 Ps Pe Ps Pe Ps Pe Ps Pe Pd
Cn21 So19 Cn So58 CnB SoD5 Cn19 SoB Cn3 Zs Po2 So Lm Lo Nl Ps Pe Ps Pe Ps Pe Ps Pe Ps Pe So1 Ps Pe
Ps Pe Ps Pe Ps Pe Pd Ps Pe1 So Nl8 Mn3 Mc1 Pd Lm4 So1 Nl2 Lm Lo Po So1 Cn Lo55 Cn1 Mn1 Sk1 Lm1 Lo
Pd Lo59 Po Lm2 Lo Cn4 Lo2A Cn Lo5D Cn So1 No3 So9 Lo1F So23 CnB LoF So1E Cn No9 So1D No7 So NoE
So1F No9 So26 NoE So13F Lo19BF So3F Lo5214 Lm Lo476 Cn2 So36 Cn8 Lo27 Lm5 Po1 Lo10B Lm Po2 LoF Nd9
Lo1 Cn13 Lu Ll Lu Ll Lu Ll Lu Ll Lu Ll Lu Ll Lu Ll Lu Ll Lu Ll Lu Ll Lu Ll Lu Ll Lu Ll Lu Ll Lu Ll
Lu Ll Lu Ll Lu Ll Lu Ll Lu Ll Lu Ll Lu Ll Lu Ll Lo Mn Me2 Po Mn9 Po Lm Lu Ll Lu Ll Lu Ll Lu Ll Lu
Ll Lu Ll Lu Ll Lu Ll Lu Ll Lu Ll Lu Ll Lu Ll Lu Ll Lu Ll Lm1 Mn1 Lo45 Nl9 Mn1 Po5 Cn7 Sk16 Lm8 Sk1
Lu Ll Lu Ll Lu Ll Lu Ll Lu Ll Lu Ll Lu Ll2 Lu Ll Lu Ll Lu Ll Lu Ll Lu Ll Lu Ll Lu Ll Lu Ll Lu Ll
Lu Ll Lu Ll Lu Ll Lu Ll Lu Ll Lu Ll Lu Ll Lu Ll Lu Ll Lu Ll Lu Ll Lu Ll Lu Ll Lu Ll Lu Ll Lu Ll Lu
Ll Lu Ll Lu Ll Lu Ll Lu Ll Lu Ll Lm Ll7 Lu Ll Lu Ll Lu1 Ll Lu Ll Lu Ll Lu Ll Lu Ll Lm Sk1 Lu Ll Lu
Ll Lo Lu Ll Lu Ll2 Lu Ll Lu Ll Lu Ll Lu Ll Lu Ll Lu Ll Lu Ll Lu Ll Lu Ll Lu Ll Lu4 Ll Lu4 Ll Lu Ll
Lu Ll Lu Ll Lu Ll Lu Ll Lu Ll Lu Ll Lu3 Ll Lu Ll Cn4 Lu Ll Cn Ll Cn Ll Lu Ll Lu Ll Cn17 Lm2 Lu Ll
Lo Lm1 Ll Lo6 Mn Lo2 Mn Lo3 Mn Lo16 Mc1 Mn1 Mc So3 Mn Cn2 No5 So1 Sc So Cn5 Lo33 Po3 Cn7 Mc1 Lo31
McF Mn1 Cn7 Po1 Nd9 Cn5 Mn11 Lo5 Po2 Lo Po Lo1 Mn Nd9 Lo1B Mn7 Po1 Lo16 MnA Mc1 CnA Po Lo1C Cn2
Mn2 Mc Lo2E Mn Mc1 Mn3 Mc1 Mn1 Mc2 PoC Cn Lm Nd9 Cn3 Po1 Lo4 Mn Lm Lo8 Nd9 Lo4 Cn Lo28 Mn5 Mc1 Mn1
Mc1 Mn1 Cn8 Lo2 Mn Lo7 Mn Mc Cn1 Nd9 Cn1 Po3 LoF Lm Lo5 So2 Lo Mc Mn Mc Lo31 Mn Lo Mn2 Lo1 Mn1 Lo4
Mn1 Lo Mn Lo Cn17 Lo1 Lm Po1 LoA Mc Mn1 Mc1 Po1 Lo Lm1 Mc Mn Cn9 Lo5 Cn1 Lo5 Cn1 Lo5 Cn8 Lo6 Cn
Lo6 Cn Ll2A Sk Lm3 Ll8 Lm Sk1 Cn3 Ll4F Lo22 Mc1 Mn Mc1 Mn Mc1 Po Mc Mn Cn1 Nd9 Cn5 Lo2BA3 CnB Lo16
Cn3 Lo30 Cn3 Cs7FF Co18FF Lo16D Cn1 Lo69 Cn25 Ll6 CnB Ll4 Cn4 Lo Mn Lo9 Sm LoC Cn Lo4 Cn Lo Cn Lo1
Cn Lo1 Cn Lo6B Sk10 CnF Lo16A Pe Ps SoF Lo3F Cn1 Lo35 Cn6 So Cn1F LoB Sc So2 MnF Po6 Ps Pe Po Cn5
MnF Po Pd1 Pc1 Ps Pe Ps Pe Ps Pe Ps Pe Ps Pe Ps Pe Ps Pe Ps Pe Po1 Ps Pe Po3 Pc2 Po2 Cn Po3 Pd Ps
Pe Ps Pe Ps Pe Po2 Sm Pd Sm2 Cn Po Sc Po1 Cn3 Lo4 Cn Lo86 Cn1 Cf Cn Po2 Sc Po2 Ps Pe Po Sm Po Pd
Po1 Nd9 Po1 Sm2 Po1 Lu19 Ps Po Pe Sk Pc Sk Ll19 Ps Sm Pe Sm Ps Pe Po Ps Pe Po1 Lo9 Lm Lo2C Lm1
Lo1E Cn2 Lo5 Cn1 Lo5 Cn1 Lo5 Cn1 Lo2 Cn2 Sc1 Sm Sk So Sc1 Cn So Sm3 So1 Cn9 Cf2 So1 Cn1 LoB Cn
Lo19 Cn Lo12 Cn Lo1 Cn LoE Cn1 LoD Cn21 Lo7A Cn4 Po2 Cn3 No2C Cn2 So8 Nl34 No3 So10 No1 So2 Cn SoC
Cn2 So Cn2E So2C Mn Cn81 Lo1C Cn2 Lo30 CnE Mn No1A Cn3 Lo1F No3 Cn8 Lo13 Nl Lo7 Nl Cn4 Lo25 Mn4
Cn4 Lo1D Cn Po Lo23 Cn3 Lo7 Po Nl4 Cn29 Lu27 Ll27 Lo4D Cn1 Nd9 Cn5 Lu23 Cn3 Ll23 Cn3 Lo27 Cn7 Lo33
CnA Po LuA Cn LuE Cn Lu6 Cn Lu1 Cn LlA Cn LlE Cn Ll6 Cn Ll1 Cn42 Lo136 Cn8 Lo15 Cn9 Lo7 Cn17 Lm5
Cn Lm29 Cn Lm8 Cn44 Lo5 Cn1 Lo Cn Lo2B Cn Lo1 Cn2 Lo Cn1 Lo16 Cn Po No7 Lo16 So1 No6 Lo1E Cn7 No8
Cn2F Lo12 Cn Lo1 Cn4 No4 Lo15 No5 Cn2 Po Lo19 Cn4 Po Cn3F Lo37 Cn3 No1 Lo1 NoF Cn1 No2D Lo Mn2 Cn
Mn1 Cn4 Mn3 Lo3 Cn Lo2 Cn Lo1C Cn1 Mn2 Cn3 Mn No8 Cn6 Po8 Cn6 Lo1C No1 Po Lo1C No2 Cn1F Lo7 So
Lo1B Mn1 Cn3 No4 Po6 Cn8 Lo35 Cn2 Po6 Lo15 Cn1 No7 Lo12 Cn4 No7 Lo11 Cn6 Po3 CnB No6 Cn4F Lo48
Cn36 Lu32 CnC Ll32 Cn6 No5 Lo23 Mn3 Cn7 Nd9 Cn125 No1E Cn Lo29 Cn Mn1 Pd Cn1 Lo1 Cn4A Mn2 Lo1C No9
Lo Cn7 Lo15 MnA No3 Po4 Cn15 Lo11 Mn3 Po3 Cn25 Lo14 No6 Cn13 Lo16 Cn8 Mc Mn Mc Lo34 MnE Po6 Cn3
No13 Nd9 Mn Lo1 Mn1 Lo Cn8 Mn2 Mc Lo2C Mc2 Mn3 Mc1 Mn1 Po1 Cf Po3 Mn Cn9 Cf Cn1 Lo18 Cn6 Nd9 Cn5
Mn2 Lo23 Mn4 Mc Mn7 Cn Nd9 Po3 Lo Mc1 Lo Cn7 Lo22 Mn Po1 Lo Cn8 Mn1 Mc Lo2F Mc2 Mn8 Mc1 Lo3 Po3
Mn3 Po Mc Mn Nd9 Lo Po Lo Po2 Cn No13 CnA Lo11 Cn Lo18 Mc2 Mn2 Mc1 Mn Mc Mn1 Po5 Mn Lo1 Mn Cn3D
Lo6 Cn Lo Cn Lo3 Cn LoE Cn Lo9 Po Cn5 Lo2E Mn Mc2 Mn7 Cn4 Nd9 Cn5 Mn1 Mc1 Cn Lo7 Cn1 Lo1 Cn1 Lo15
Cn Lo6 Cn Lo1 Cn Lo4 Cn Mn1 Lo Mc1 Mn Mc3 Cn1 Mc1 Cn1 Mc2 Cn1 Lo Cn5 Mc Cn4 Lo4 Mc1 Cn1 Mn6 Cn2
Mn4 Cn8A Lo34 Mc2 Mn7 Mc1 Mn2 Mc Mn Lo3 Po4 Nd9 Po1 Cn Po Mn Lo2 Cn1D Lo2F Mc2 Mn5 Mc Mn Mc3 Mn1
Mc Mn1 Lo1 Po Lo Cn7 Nd9 CnA5 Lo2E Mc2 Mn3 Cn1 Mc3 Mn1 Mc Mn1 Po16 Lo3 Mn1 Cn21 Lo2F Mc2 Mn7 Mc1
Mn Mc Mn1 Po2 Lo CnA Nd9 Cn5 PoC Cn12 Lo2A Mn Mc Mn Mc1 Mn5 Mc Mn Lo Po Cn5 Nd9 Cn35 Lo1A Cn1 Mn2
Mc1 Mn3 Mc Mn4 Cn3 Nd9 No1 Po2 So Lo6 CnB8 Lo2B Mc2 Mn8 Mc Mn1 Po Cn63 Lu1F Ll1F Nd9 No8 CnB Lo7
Cn1 Lo Cn1 Lo7 Cn Lo1 Cn Lo17 Mc5 Cn Mc1 Cn1 Mn1 Mc Mn Lo Mc Lo Mc Mn Po2 Cn8 Nd9 Cn45 Lo7 Cn1
Lo26 Mc2 Mn3 Cn1 Mn1 Mc3 Mn Lo Po Lo Mc Cn1A Lo Mn9 Lo27 Mn5 Mc Lo Mn3 Po7 Mn Cn7 Lo Mn5 Mc1 Mn2
Lo2D MnC Mc Mn1 Po2 Lo Po4 CnC Lo48 Cn6 Po9 CnF5 Lo8 Cn Lo24 Mc Mn6 Cn Mn5 Mc Mn Lo Po4 Cn9 Nd9
No12 Cn2 Po1 Lo1D Cn1 Mn15 Cn Mc Mn6 Mc Mn1 Mc Mn1 Cn48 Lo6 Cn Lo1 Cn Lo25 Mn5 Cn2 Mn Cn Mn1 Cn
Mn6 Lo Mn Cn7 Nd9 Cn5 Lo5 Cn Lo1 Cn Lo1F Mc4 Cn Mn1 Cn Mc1 Mn Mc Mn Lo Cn6 Nd9 Cn135 Lo12 Mn1 Mc1
Po1 Cn6 Mn1 Lo Mc LoC Cn Lo21 Mc1 Mn4 Cn2 Mc1 Mn Mc Mn PoC Nd9 Cn55 Lo CnE No14 So7 Sc3 So10 CnC
Po Lo399 Cn65 Nl6E Cn Po4 CnA LoC3 CnA4B Lo60 Po1 CnC Lo42F CfF Mn Lo5 MnE CnFA9 Lo246 Cn21B8
Lo238 Cn6 Lo1E Cn Nd9 Cn3 Po1 Lo4E Cn Nd9 Cn5 Lo1D Cn1 Mn4 Po Cn9 Lo2F Mn6 Po4 So3 Lm3 Po So Cn9
Nd9 Cn No6 Cn Lo14 Cn4 Lo12 Cn2AF Lu1F Ll1F No16 Po3 Cn64 Lo4A Cn3 Mn Lo Mc36 Cn6 Mn3 LmC Cn3F Lm1
Po Lm Mn CnA Mc1 CnD Lo17F7 Cn7 Lo4D5 Cn29 Lo8 Cn22E6 Lm3 Cn Lm6 Cn Lm1 Cn Lo122 CnE Lo Cn1C Lo2
Cn1 Lo CnD Lo3 Cn7 Lo18B Cn903 Lo6A Cn4 LoC Cn2 Lo8 Cn6 Lo9 Cn1 So Mn1 Po Cf3 Cn125B Mn2D Cn1 Mn16
Cn8 So73 Cn3B SoF5 Cn9 So26 Cn1 So3B Mc1 Mn2 So2 Mc5 Cf7 Mn7 So1 Mn6 So1D Mn3 So3C Cn14 So41 Mn2
So Cn79 No13 CnB No13 CnB So56 Cn8 No18 Cn86 Lu19 Ll19 Lu19 Ll6 Cn Ll11 Lu19 Ll19 Lu Cn Lu1 Cn1 Lu
Cn1 Lu1 Cn1 Lu3 Cn Lu7 Ll3 Cn Ll Cn Ll6 Cn LlA Lu19 Ll19 Lu1 Cn Lu3 Cn1 Lu7 Cn Lu6 Cn Ll19 Lu1 Cn
Lu3 Cn Lu4 Cn Lu Cn2 Lu6 Cn Ll19 Lu19 Ll19 Lu19 Ll19 Lu19 Ll19 Lu19 Ll19 Lu19 Ll19 Lu19 Ll1B Cn1
Lu18 Sm Ll18 Sm Ll5 Lu18 Sm Ll18 Sm Ll5 Lu18 Sm Ll18 Sm Ll5 Lu18 Sm Ll18 Sm Ll5 Lu18 Sm Ll18 Sm
Ll5 Lu Ll Cn1 Nd31 So1FF Mn36 So3 Mn31 So7 Mn SoD Mn So1 Po4 CnE Mn4 Cn MnE Cn44F Ll9 Lo Ll13 Cn5
Ll5 CnD4 Mn6 Cn Mn10 Cn1 Mn6 Cn Mn1 Cn Mn4 Cn4 Lm3D Cn20 Mn Cn6F Lo2C Cn2 Mn6 Lm6 Cn1 Nd9 Cn3 Lo
So Cn13F Lo1D Mn Cn10 Lo2B Mn3 Nd9 Cn4 Sc Cn1CF Lo1A Lm Mn3 Nd9 Cn2E5 Lo6 Cn Lo3 Cn Lo1 Cn LoE Cn
LoC4 Cn1 No8 Mn6 Cn28 Lu21 Ll21 Mn6 Lm Cn3 Nd9 Cn3 Po1 Cn310 No3A So No2 Sc No3 Cn4B No2C So NoE
CnC1 Lo3 Cn Lo1A Cn Lo1 Cn Lo Cn1 Lo Cn Lo9 Cn Lo3 Cn Lo Cn Lo Cn5 Lo Cn3 Lo Cn Lo Cn Lo Cn Lo2 Cn
Lo1 Cn Lo Cn1 Lo Cn Lo Cn Lo Cn Lo Cn Lo Cn Lo1 Cn Lo Cn1 Lo3 Cn Lo6 Cn Lo3 Cn Lo3 Cn Lo Cn Lo9 Cn
Lo10 Cn4 Lo2 Cn Lo4 Cn Lo10 Cn33 Sm1 Cn10D So2B Cn3 So63 CnB SoE Cn1 SoE Cn SoE Cn So24 Cn9 NoC
SoA0 Cn37 So1C CnC So2B Cn3 So8 Cn6 So1 CnD So5 Cn99 SoFA Sk4 So2D7 Cn3 So10 Cn2 SoC Cn2 So76 Cn3
So5E Cn5 SoB Cn3 So CnE SoB Cn3 So37 Cn7 So9 Cn5 So27 Cn7 So1D Cn1 So1 Cn4D So153 CnB SoD Cn1 SoC
Cn2 So8 Cn6 So2D Cn So6 Cn7 SoD Cn3 So8 Cn6 So8 Cn6 So92 Cn So36 Cn24 Nd9 Cn405 LoA6DF Cn1F Lo1039
Cn5 LoDD Cn1 Lo1681 CnD Lo1D30 CnC1E Lo21D Cn5E1 Lo134A Cn4 Lo105F CnADC50 Cf Cn1D Cf5F Cn7F MnEF
CnFE0F CoFFFD Cn1 CoFFFD Cn1"

/-- The names of the general categories and of their groups. -/
def categoryNames : List (String × String) := aliases
  "C:c,other Cc:cc,cntrl,control Cf:cf,format Cn:cn,unassigned Co:co,privateuse Cs:cs,surrogate
L:l,letter LC:casedletter,lc Ll:ll,lowercaseletter Lm:lm,modifierletter Lo:lo,otherletter
Lt:lt,titlecaseletter Lu:lu,uppercaseletter M:combiningmark,m,mark Mc:mc,spacingmark
Me:enclosingmark,me Mn:mn,nonspacingmark N:n,number Nd:decimalnumber,digit,nd Nl:letternumber,nl
No:no,othernumber P:p,punct,punctuation Pc:connectorpunctuation,pc Pd:dashpunctuation,pd
Pe:closepunctuation,pe Pf:finalpunctuation,pf Pi:initialpunctuation,pi Po:otherpunctuation,po
Ps:openpunctuation,ps S:s,symbol Sc:currencysymbol,sc Sk:modifiersymbol,sk Sm:mathsymbol,sm
So:othersymbol,so Z:separator,z Zl:lineseparator,zl Zp:paragraphseparator,zp Zs:spaceseparator,zs"

/-- The general categories in runs. -/
def categoryRuns : List Run := runs 2 categoryTable

/-- The code points of a general category, or of a group named by its first letter; `LC` is the
group of cased letters. -/
def ofCategory (code : String) : CodeSet :=
  let members := match code with
    | "LC" => ["Lu", "Ll", "Lt"]
    | _ => [code]
  select (fun c ↦ members.any fun m ↦ m.toList.isPrefixOf c) categoryRuns

/-- The general category of a code point. -/
def categoryOf (n : Nat) : String :=
  ((categoryRuns.find? fun r ↦ n ≤ r.last).map fun r ↦ String.ofList r.code).getD "Cn"

end StatusRollup.Unicode
