import StatusRollup.Unicode.Table

/-!
# Scripts

The script of each code point, and the code points that several scripts share. A script's extended
set holds its own code points, unless they are listed as belonging to others, and those listed as
shared with it.
-/

namespace StatusRollup.Unicode

/-- The scripts in runs. -/
def scriptTable : String :=
  "Zyyy40 Latn19 Zyyy5 Latn19 Zyyy2E Latn ZyyyE Latn Zyyy4 Latn16 Zyyy Latn1E Zyyy Latn1C0 Zyyy26
Latn4 Zyyy4 Bopo1 Zyyy13 Zinh6F Grek3 Zyyy Grek2 Zzzz1 Grek3 Zyyy Grek Zzzz3 Grek Zyyy Grek Zyyy
Grek2 Zzzz Grek Zzzz Grek13 Zzzz Grek3E CoptD GrekF Cyrl84 Zinh1 CyrlA8 Zzzz Armn25 Zzzz1 Armn31
Zzzz1 Armn2 Zzzz Hebr36 Zzzz7 Hebr1A Zzzz3 Hebr5 ZzzzA Arab4 Zyyy Arab5 Zyyy ArabD Zyyy Arab2 Zyyy
Arab1F Zyyy Arab9 ZinhA Arab19 Zinh Arab6B Zyyy Arab21 SyrcD Zzzz Syrc3B Zzzz1 Syrc2 Arab2F Thaa31
ZzzzD Nkoo3A Zzzz1 Nkoo2 Samr2D Zzzz1 SamrE Zzzz Mand1B Zzzz1 Mand Zzzz SyrcA Zzzz4 Arab1E Zzzz
Arab1 Zzzz5 Arab49 Zyyy Arab1C Deva50 Zinh3 DevaE Zyyy1 Deva19 Beng3 Zzzz Beng7 Zzzz1 Beng1 Zzzz1
Beng15 Zzzz Beng6 Zzzz Beng Zzzz2 Beng3 Zzzz1 Beng8 Zzzz1 Beng1 Zzzz1 Beng3 Zzzz7 Beng Zzzz3 Beng1
Zzzz Beng4 Zzzz1 Beng18 Zzzz1 Guru2 Zzzz Guru5 Zzzz3 Guru1 Zzzz1 Guru15 Zzzz Guru6 Zzzz Guru1 Zzzz
Guru1 Zzzz Guru1 Zzzz1 Guru Zzzz Guru4 Zzzz3 Guru1 Zzzz1 Guru2 Zzzz2 Guru Zzzz6 Guru3 Zzzz Guru
Zzzz6 Guru10 Zzzz9 Gujr2 Zzzz Gujr8 Zzzz Gujr2 Zzzz Gujr15 Zzzz Gujr6 Zzzz Gujr1 Zzzz Gujr4 Zzzz1
Gujr9 Zzzz Gujr2 Zzzz Gujr2 Zzzz1 Gujr ZzzzE Gujr3 Zzzz1 GujrB Zzzz6 Gujr6 Zzzz Orya2 Zzzz Orya7
Zzzz1 Orya1 Zzzz1 Orya15 Zzzz Orya6 Zzzz Orya1 Zzzz Orya4 Zzzz1 Orya8 Zzzz1 Orya1 Zzzz1 Orya2
Zzzz6 Orya2 Zzzz3 Orya1 Zzzz Orya4 Zzzz1 Orya11 Zzzz9 Taml1 Zzzz Taml5 Zzzz2 Taml2 Zzzz Taml3
Zzzz2 Taml1 Zzzz Taml Zzzz Taml1 Zzzz2 Taml1 Zzzz2 Taml2 Zzzz2 TamlB Zzzz3 Taml4 Zzzz2 Taml2 Zzzz
Taml3 Zzzz1 Taml Zzzz5 Taml ZzzzD Taml14 Zzzz4 TeluC Zzzz Telu2 Zzzz Telu16 Zzzz TeluF Zzzz1 Telu8
Zzzz Telu2 Zzzz Telu3 Zzzz6 Telu1 Zzzz Telu2 Zzzz1 Telu Zzzz1 Telu3 Zzzz1 Telu9 Zzzz6 Telu8 KndaC
Zzzz Knda2 Zzzz Knda16 Zzzz Knda9 Zzzz Knda4 Zzzz1 Knda8 Zzzz Knda2 Zzzz Knda3 Zzzz6 Knda1 Zzzz5
Knda1 Zzzz Knda3 Zzzz1 Knda9 Zzzz Knda2 ZzzzB MlymC Zzzz Mlym2 Zzzz Mlym32 Zzzz Mlym2 Zzzz Mlym5
Zzzz3 MlymF Zzzz1 Mlym19 Zzzz Sinh2 Zzzz Sinh11 Zzzz2 Sinh17 Zzzz Sinh8 Zzzz Sinh Zzzz1 Sinh6
Zzzz2 Sinh Zzzz3 Sinh5 Zzzz Sinh Zzzz Sinh7 Zzzz5 Sinh9 Zzzz1 Sinh2 ZzzzB Thai39 Zzzz3 Zyyy Thai1B
Zzzz24 Laoo1 Zzzz Laoo Zzzz Laoo4 Zzzz Laoo17 Zzzz Laoo Zzzz Laoo16 Zzzz1 Laoo4 Zzzz Laoo Zzzz
Laoo6 Zzzz Laoo9 Zzzz1 Laoo3 Zzzz1F Tibt47 Zzzz Tibt23 Zzzz3 Tibt26 Zzzz Tibt23 Zzzz TibtE Zzzz
Tibt6 Zyyy3 Tibt1 Zzzz24 Mymr9F Geor25 Zzzz Geor Zzzz4 Geor Zzzz1 Geor2A Zyyy Geor3 HangFF Ethi48
Zzzz Ethi3 Zzzz1 Ethi6 Zzzz Ethi Zzzz Ethi3 Zzzz1 Ethi28 Zzzz Ethi3 Zzzz1 Ethi20 Zzzz Ethi3 Zzzz1
Ethi6 Zzzz Ethi Zzzz Ethi3 Zzzz1 EthiE Zzzz Ethi38 Zzzz Ethi3 Zzzz1 Ethi42 Zzzz1 Ethi1F Zzzz2
Ethi19 Zzzz5 Cher55 Zzzz1 Cher5 Zzzz1 Cans27F Ogam1C Zzzz2 Runr4A Zyyy2 RunrA Zzzz6 Tglg15 Zzzz8
Tglg Hano14 Zyyy1 Zzzz8 Buhd13 ZzzzB TagbC Zzzz Tagb2 Zzzz Tagb1 ZzzzB Khmr5D Zzzz1 Khmr9 Zzzz5
Khmr9 Zzzz5 Mong1 Zyyy1 Mong Zyyy Mong13 Zzzz5 Mong58 Zzzz6 Mong2A Zzzz4 Cans45 Zzzz9 Limb1E Zzzz
LimbB Zzzz3 LimbB Zzzz3 Limb Zzzz2 LimbB Tale1D Zzzz1 Tale4 ZzzzA Talu2B Zzzz3 Talu19 Zzzz5 TaluA
Zzzz2 Talu1 Khmr1F Bugi1B Zzzz1 Bugi1 Lana3E Zzzz Lana1C Zzzz1 LanaA Zzzz5 Lana9 Zzzz5 LanaD Zzzz1
Zinh1E Zzzz30 Bali4C Zzzz2 Bali2E Zzzz Sund3F Batk33 Zzzz7 Batk3 Lepc37 Zzzz2 LepcE Zzzz2 Lepc2
Olck2F Cyrl8 Zzzz6 Geor2A Zzzz1 Geor2 Sund7 Zzzz7 Zinh2 Zyyy ZinhC Zyyy Zinh6 Zyyy3 Zinh Zyyy5
Zinh Zyyy2 Zinh1 Zyyy Zzzz4 Latn25 Grek4 Cyrl Latn30 Grek4 Latn3 Grek4 LatnC Cyrl Latn45 Grek
Zinh3F LatnFF Grek15 Zzzz1 Grek5 Zzzz1 Grek25 Zzzz1 Grek5 Zzzz1 Grek7 Zzzz Grek Zzzz Grek Zzzz
Grek Zzzz Grek1E Zzzz1 Grek34 Zzzz GrekE Zzzz GrekD Zzzz1 Grek5 Zzzz Grek12 Zzzz1 Grek2 Zzzz Grek8
Zzzz ZyyyB Zinh1 Zyyy56 Zzzz ZyyyA Latn Zzzz1 ZyyyA Latn ZyyyE Zzzz LatnC Zzzz2 Zyyy20 ZzzzE
Zinh20 ZzzzE Zyyy25 Grek Zyyy2 Latn1 Zyyy5 Latn Zyyy1A Latn Zyyy10 Latn28 Zyyy2 Zzzz3 Zyyy296
Zzzz18 ZyyyA Zzzz14 Zyyy39F BraiFF Zyyy273 Zzzz1 Zyyy1F Zzzz Zyyy68 Glag5F Latn1F Copt73 Zzzz4
Copt6 Geor25 Zzzz Geor Zzzz4 Geor Zzzz1 Tfng37 Zzzz6 Tfng1 ZzzzD Tfng Ethi16 Zzzz8 Ethi6 Zzzz
Ethi6 Zzzz Ethi6 Zzzz Ethi6 Zzzz Ethi6 Zzzz Ethi6 Zzzz Ethi6 Zzzz Ethi6 Zzzz Cyrl1F Zyyy5D Zzzz21
Hani19 Zzzz Hani58 ZzzzB HaniD5 Zzzz19 ZyyyB Zzzz3 Zyyy4 Hani Zyyy Hani Zyyy18 Hani8 Zinh3 Hang1
Zyyy7 Hani3 Zyyy3 Zzzz Hira55 Zzzz1 Zinh1 Zyyy1 Hira2 Zyyy Kana59 Zyyy1 Kana2 Zzzz4 Bopo2A Zzzz
Hang5D Zzzz ZyyyF Bopo1F Zyyy23 ZzzzB KanaF Hang1E Zzzz Zyyy3F Hang1E Zyyy50 Kana2E Zyyy Kana57
ZyyyA7 Hani19BF Zyyy3F Hani51FF Yiii48C Zzzz2 Yiii36 Zzzz8 Lisu2F Vaii12B Zzzz13 Cyrl5F Bamu57
Zzzz7 Zyyy21 Latn65 Zyyy2 Latn3F Zzzz4 Latn1 Zzzz Latn Zzzz Latn4 Zzzz17 LatnD Sylo2C Zzzz2 Zyyy9
Zzzz5 Phag37 Zzzz7 Saur45 Zzzz7 SaurB Zzzz5 Deva1F Kali2D Zyyy Kali Rjng23 ZzzzA Rjng Hang1C Zzzz2
Java4D Zzzz Zyyy Java9 Zzzz3 Java1 Mymr1E Zzzz Cham36 Zzzz8 ChamD Zzzz1 Cham9 Zzzz1 Cham3 Mymr1F
Tavt42 Zzzz17 Tavt4 Mtei16 Zzzz9 Ethi5 Zzzz1 Ethi5 Zzzz1 Ethi5 Zzzz8 Ethi6 Zzzz Ethi6 Zzzz Latn2A
Zyyy Latn8 Grek Latn3 Zyyy1 Zzzz3 Cher4F Mtei2D Zzzz1 Mtei9 Zzzz5 Hang2BA3 ZzzzB Hang16 Zzzz3
Hang30 Zzzz2103 Hani16D Zzzz1 Hani69 Zzzz25 Latn6 ZzzzB Armn4 Zzzz4 Hebr19 Zzzz Hebr4 Zzzz Hebr
Zzzz Hebr1 Zzzz Hebr1 Zzzz Hebr9 Arab72 ZzzzF Arab16A Zyyy1 Arab4F Zzzz1 Arab35 Zzzz6 Arab Zzzz1F
ArabF ZinhF Zyyy9 Zzzz5 ZinhD Cyrl1 Zyyy22 Zzzz Zyyy12 Zzzz Zyyy3 Zzzz3 Arab4 Zzzz Arab86 Zzzz1
Zyyy Zzzz Zyyy1F Latn19 Zyyy5 Latn19 ZyyyA Kana9 Zyyy Kana2C Zyyy1 Hang1E Zzzz2 Hang5 Zzzz1 Hang5
Zzzz1 Hang5 Zzzz1 Hang2 Zzzz2 Zyyy6 Zzzz Zyyy6 Zzzz9 Zyyy4 Zzzz1 LinbB Zzzz Linb19 Zzzz Linb12
Zzzz Linb1 Zzzz LinbE Zzzz1 LinbD Zzzz21 Linb7A Zzzz4 Zyyy2 Zzzz3 Zyyy2C Zzzz2 Zyyy8 Grek4E Zzzz
ZyyyC Zzzz2 Grek Zzzz2E Zyyy2C Zinh Zzzz81 Lyci1C Zzzz2 Cari30 ZzzzE Zinh Zyyy1A Zzzz3 Ital23
Zzzz8 Ital2 Goth1A Zzzz4 Perm2A Zzzz4 Ugar1D Zzzz Ugar Xpeo23 Zzzz3 XpeoD Zzzz29 Dsrt4F Shaw2F
Osma1D Zzzz1 Osma9 Zzzz5 Osge23 Zzzz3 Osge23 Zzzz3 Elba27 Zzzz7 Aghb33 ZzzzA Aghb VithA Zzzz VithE
Zzzz Vith6 Zzzz Vith1 Zzzz VithA Zzzz VithE Zzzz Vith6 Zzzz Vith1 Zzzz42 Lina136 Zzzz8 Lina15
Zzzz9 Lina7 Zzzz17 Latn5 Zzzz Latn29 Zzzz Latn8 Zzzz44 Cprt5 Zzzz1 Cprt Zzzz Cprt2B Zzzz Cprt1
Zzzz2 Cprt Zzzz1 Cprt Armi15 Zzzz Armi8 Palm1F Nbat1E Zzzz7 Nbat8 Zzzz2F Hatr12 Zzzz Hatr1 Zzzz4
Hatr4 Phnx1B Zzzz2 Phnx Lydi19 Zzzz4 Lydi Zzzz3F Mero1F Merc17 Zzzz3 Merc13 Zzzz1 Merc2D Khar3
Zzzz Khar1 Zzzz4 Khar7 Zzzz Khar2 Zzzz Khar1C Zzzz1 Khar2 Zzzz3 Khar9 Zzzz6 Khar8 Zzzz6 Sarb1F
Narb1F Zzzz1F Mani26 Zzzz3 ManiB Zzzz8 Avst35 Zzzz2 Avst6 Prti15 Zzzz1 Prti7 Phli12 Zzzz4 Phli7
Phlp11 Zzzz6 Phlp3 ZzzzB Phlp6 Zzzz4F Orkh48 Zzzz36 Hung32 ZzzzC Hung32 Zzzz6 Hung5 Rohg27 Zzzz7
Rohg9 Zzzz125 Arab1E Zzzz Yezi29 Zzzz Yezi2 Zzzz1 Yezi1 Zzzz4A Arab2 Sogo27 Zzzz7 Sogd29 Zzzz15
Ougr19 Zzzz25 Chrs1B Zzzz13 Elym16 Zzzz8 Brah4D Zzzz3 Brah23 Zzzz8 Brah Kthi42 Zzzz9 Kthi Zzzz1
Sora18 Zzzz6 Sora9 Zzzz5 Cakm34 Zzzz Cakm11 Zzzz7 Mahj26 Zzzz8 Shrd5F Zzzz Sinh13 ZzzzA Khoj11
Zzzz Khoj2E Zzzz3D Mult6 Zzzz Mult Zzzz Mult3 Zzzz MultE Zzzz MultA Zzzz5 Sind3A Zzzz4 Sind9 Zzzz5
Gran3 Zzzz Gran7 Zzzz1 Gran1 Zzzz1 Gran15 Zzzz Gran6 Zzzz Gran1 Zzzz Gran4 Zzzz Zinh Gran8 Zzzz1
Gran1 Zzzz1 Gran2 Zzzz1 Gran Zzzz5 Gran Zzzz4 Gran6 Zzzz1 Gran6 Zzzz2 Gran4 Zzzz8A Newa5B Zzzz
Newa4 Zzzz1D Tirh47 Zzzz7 Tirh9 ZzzzA5 Sidd35 Zzzz1 Sidd25 Zzzz21 Modi44 ZzzzA Modi9 Zzzz5 MongC
Zzzz12 Takr39 Zzzz5 Takr9 Zzzz35 Ahom1A Zzzz1 AhomE Zzzz3 Ahom16 ZzzzB8 Dogr3B Zzzz63 Wara52 ZzzzB
Wara Diak6 Zzzz1 Diak Zzzz1 Diak7 Zzzz Diak1 Zzzz Diak1D Zzzz Diak1 Zzzz1 DiakB Zzzz8 Diak9 Zzzz45
Nand7 Zzzz1 Nand2D Zzzz1 NandA Zzzz1A Zanb47 Zzzz7 Soyo52 ZzzzC CansF Pauc38 Zzzz6 Deva9 ZzzzF5
Bhks8 Zzzz Bhks2C Zzzz BhksD Zzzz9 Bhks1C Zzzz2 Marc1F Zzzz1 Marc15 Zzzz MarcD Zzzz48 Gonm6 Zzzz
Gonm1 Zzzz Gonm2B Zzzz2 Gonm Zzzz Gonm1 Zzzz Gonm8 Zzzz7 Gonm9 Zzzz5 Gong5 Zzzz Gong1 Zzzz Gong24
Zzzz Gong1 Zzzz Gong5 Zzzz6 Gong9 Zzzz135 Maka18 Zzzz6 Kawi10 Zzzz Kawi28 Zzzz2 Kawi1B Zzzz55 Lisu
ZzzzE Taml31 ZzzzC Taml Xsux399 Zzzz65 Xsux6E Zzzz Xsux4 ZzzzA XsuxC3 ZzzzA4B Cpmn62 ZzzzC Egyp455
ZzzzFA9 Hluw246 Zzzz21B8 Bamu238 Zzzz6 Mroo1E Zzzz Mroo9 Zzzz3 Mroo1 Tnsa4E Zzzz Tnsa9 Zzzz5
Bass1D Zzzz1 Bass5 Zzzz9 Hmng45 Zzzz9 Hmng9 Zzzz Hmng6 Zzzz Hmng14 Zzzz4 Hmng12 Zzzz2AF Medf5A
Zzzz64 Plrd4A Zzzz3 Plrd38 Zzzz6 Plrd10 Zzzz3F Tang Nshu Hani1 Kits ZzzzA Hani1 ZzzzD Tang17F7
Zzzz7 Tang2FF Kits1D5 Zzzz29 Tang8 Zzzz22E6 Kana3 Zzzz Kana6 Zzzz Kana1 Zzzz Kana Hira11E Kana2
ZzzzE Hira Zzzz1C Hira2 Zzzz1 Kana ZzzzD Kana3 Zzzz7 Nshu18B Zzzz903 Dupl6A Zzzz4 DuplC Zzzz2
Dupl8 Zzzz6 Dupl9 Zzzz1 Dupl3 Zyyy3 Zzzz125B Zinh2D Zzzz1 Zinh16 Zzzz8 Zyyy73 Zzzz3B ZyyyF5 Zzzz9
Zyyy26 Zzzz1 Zyyy3D Zinh2 Zyyy10 Zinh7 Zyyy1 Zinh6 Zyyy1D Zinh3 Zyyy3C Zzzz14 Grek45 Zzzz79 Zyyy13
ZzzzB Zyyy13 ZzzzB Zyyy56 Zzzz8 Zyyy18 Zzzz86 Zyyy54 Zzzz Zyyy46 Zzzz Zyyy1 Zzzz1 Zyyy Zzzz1 Zyyy1
Zzzz1 Zyyy3 Zzzz ZyyyB Zzzz Zyyy Zzzz Zyyy6 Zzzz Zyyy40 Zzzz Zyyy3 Zzzz1 Zyyy7 Zzzz Zyyy6 Zzzz
Zyyy1B Zzzz Zyyy3 Zzzz Zyyy4 Zzzz Zyyy Zzzz2 Zyyy6 Zzzz Zyyy153 Zzzz1 Zyyy123 Zzzz1 Zyyy31 Sgnw28B
ZzzzE Sgnw4 Zzzz SgnwE Zzzz44F Latn1E Zzzz5 Latn5 ZzzzD4 Glag6 Zzzz Glag10 Zzzz1 Glag6 Zzzz Glag1
Zzzz Glag4 Zzzz4 Cyrl3D Zzzz20 Cyrl Zzzz6F Hmnp2C Zzzz2 HmnpD Zzzz1 Hmnp9 Zzzz3 Hmnp1 Zzzz13F
Toto1E Zzzz10 Wcho39 Zzzz4 Wcho Zzzz1CF Nagm29 Zzzz2E5 Ethi6 Zzzz Ethi3 Zzzz Ethi1 Zzzz EthiE Zzzz
MendC4 Zzzz1 MendF Zzzz28 Adlm4B Zzzz3 Adlm9 Zzzz3 Adlm1 Zzzz310 Zyyy43 Zzzz4B Zyyy3C ZzzzC1 Arab3
Zzzz Arab1A Zzzz Arab1 Zzzz Arab Zzzz1 Arab Zzzz Arab9 Zzzz Arab3 Zzzz Arab Zzzz Arab Zzzz5 Arab
Zzzz3 Arab Zzzz Arab Zzzz Arab Zzzz Arab2 Zzzz Arab1 Zzzz Arab Zzzz1 Arab Zzzz Arab Zzzz Arab Zzzz
Arab Zzzz Arab Zzzz Arab1 Zzzz Arab Zzzz1 Arab3 Zzzz Arab6 Zzzz Arab3 Zzzz Arab3 Zzzz Arab Zzzz
Arab9 Zzzz Arab10 Zzzz4 Arab2 Zzzz Arab4 Zzzz Arab10 Zzzz33 Arab1 Zzzz10D Zyyy2B Zzzz3 Zyyy63
ZzzzB ZyyyE Zzzz1 ZyyyE Zzzz ZyyyE Zzzz Zyyy24 Zzzz9 ZyyyAD Zzzz37 Zyyy19 Hira Zyyy1 ZzzzC Zyyy2B
Zzzz3 Zyyy8 Zzzz6 Zyyy1 ZzzzD Zyyy5 Zzzz99 Zyyy3D7 Zzzz3 Zyyy10 Zzzz2 ZyyyC Zzzz2 Zyyy76 Zzzz3
Zyyy5E Zzzz5 ZyyyB Zzzz3 Zyyy ZzzzE ZyyyB Zzzz3 Zyyy37 Zzzz7 Zyyy9 Zzzz5 Zyyy27 Zzzz7 Zyyy1D Zzzz1
Zyyy1 Zzzz4D Zyyy153 ZzzzB ZyyyD Zzzz1 ZyyyC Zzzz2 Zyyy8 Zzzz6 Zyyy2D Zzzz Zyyy6 Zzzz7 ZyyyD Zzzz3
Zyyy8 Zzzz6 Zyyy8 Zzzz6 Zyyy92 Zzzz Zyyy36 Zzzz24 Zyyy9 Zzzz405 HaniA6DF Zzzz1F Hani1039 Zzzz5
HaniDD Zzzz1 Hani1681 ZzzzD Hani1D30 ZzzzC1E Hani21D Zzzz5E1 Hani134A Zzzz4 Hani105F ZzzzADC50
Zyyy Zzzz1D Zyyy5F Zzzz7F ZinhEF Zzzz2FE0F"

/-- The code points with scripts of their own listing: a range and the scripts it belongs to. -/
def sharedTable : String :=
  "342:Grek 345:Grek 363-36F:Latn 483:Cyrl,Perm 484:Cyrl,Glag 485-486:Cyrl,Latn 487:Cyrl,Glag
60C:Arab,Nkoo,Rohg,Syrc,Thaa,Yezi 61B:Arab,Nkoo,Rohg,Syrc,Thaa,Yezi 61C:Arab,Syrc,Thaa
61F:Adlm,Arab,Nkoo,Rohg,Syrc,Thaa,Yezi 640:Adlm,Arab,Mand,Mani,Ougr,Phlp,Rohg,Sogd,Syrc
64B-655:Arab,Syrc 660-669:Arab,Thaa,Yezi 670:Arab,Syrc 6D4:Arab,Rohg
951:Beng,Deva,Gran,Gujr,Guru,Knda,Latn,Mlym,Orya,Shrd,Taml,Telu,Tirh
952:Beng,Deva,Gran,Gujr,Guru,Knda,Latn,Mlym,Orya,Taml,Telu,Tirh
964:Beng,Deva,Dogr,Gong,Gonm,Gran,Gujr,Guru,Knda,Mahj,Mlym,Nand,Orya,Sind,Sinh,Sylo,Takr,Taml,Telu,Tirh
965:Beng,Deva,Dogr,Gong,Gonm,Gran,Gujr,Guru,Knda,Limb,Mahj,Mlym,Nand,Orya,Sind,Sinh,Sylo,Takr,Taml,Telu,Tirh
966-96F:Deva,Dogr,Kthi,Mahj 9E6-9EF:Beng,Cakm,Sylo A66-A6F:Guru,Mult AE6-AEF:Gujr,Khoj
BE6-BF3:Gran,Taml CE6-CEF:Knda,Nand 1040-1049:Cakm,Mymr,Tale 10FB:Geor,Latn
1735-1736:Buhd,Hano,Tagb,Tglg 1802-1803:Mong,Phag 1805:Mong,Phag 1CD0:Beng,Deva,Gran,Knda
1CD1:Deva 1CD2:Beng,Deva,Gran,Knda 1CD3:Deva,Gran 1CD4:Deva 1CD5-1CD6:Beng,Deva 1CD7:Deva,Shrd
1CD8:Beng,Deva 1CD9:Deva,Shrd 1CDA:Deva,Knda,Mlym,Orya,Taml,Telu 1CDB:Deva 1CDC-1CDD:Deva,Shrd
1CDE-1CDF:Deva 1CE0:Deva,Shrd 1CE1:Beng,Deva 1CE2-1CE8:Deva 1CE9:Deva,Nand 1CEA:Beng,Deva
1CEB-1CEC:Deva 1CED:Beng,Deva 1CEE-1CF1:Deva 1CF2:Beng,Deva,Gran,Knda,Nand,Orya,Telu,Tirh
1CF3:Deva,Gran 1CF4:Deva,Gran,Knda 1CF5-1CF6:Beng,Deva 1CF7:Beng 1CF8-1CF9:Deva,Gran 1CFA:Nand
1DC0-1DC1:Grek 1DF8:Cyrl,Syrc 1DFA:Syrc 202F:Latn,Mong 20F0:Deva,Gran,Latn 2E43:Cyrl,Glag
3001-3002:Bopo,Hang,Hani,Hira,Kana,Yiii 3003:Bopo,Hang,Hani,Hira,Kana 3006:Hani
3008-3011:Bopo,Hang,Hani,Hira,Kana,Yiii 3013:Bopo,Hang,Hani,Hira,Kana
3014-301B:Bopo,Hang,Hani,Hira,Kana,Yiii 301C-301F:Bopo,Hang,Hani,Hira,Kana 302A-302D:Bopo,Hani
3030:Bopo,Hang,Hani,Hira,Kana 3031-3035:Hira,Kana 3037:Bopo,Hang,Hani,Hira,Kana
303C-303D:Hani,Hira,Kana 303E-303F:Hani 3099-309A:Hira,Kana 309B-309C:Hira,Kana 30A0:Hira,Kana
30FB:Bopo,Hang,Hani,Hira,Kana,Yiii 30FC:Hira,Kana 3190-319F:Hani 31C0-31E3:Hani 3220-3247:Hani
3280-32B0:Hani 32C0-32CB:Hani 32FF:Hani 3358-3370:Hani 337B-337F:Hani 33E0-33FE:Hani
A66F:Cyrl,Glag A700-A707:Hani,Latn
A830-A832:Deva,Dogr,Gujr,Guru,Khoj,Knda,Kthi,Mahj,Mlym,Modi,Nand,Sind,Takr,Tirh
A833-A835:Deva,Dogr,Gujr,Guru,Khoj,Knda,Kthi,Mahj,Modi,Nand,Sind,Takr,Tirh
A836-A839:Deva,Dogr,Gujr,Guru,Khoj,Kthi,Mahj,Modi,Sind,Takr,Tirh A8F1:Beng,Deva A8F3:Deva,Taml
A92E:Kali,Latn,Mymr A9CF:Bugi,Java FD3E-FD3F:Arab,Nkoo FDF2:Arab,Thaa FDFD:Arab,Thaa
FE45-FE46:Bopo,Hang,Hani,Hira,Kana FF61-FF65:Bopo,Hang,Hani,Hira,Kana,Yiii FF70:Hira,Kana
FF9E-FF9F:Hira,Kana 10100-10101:Cpmn,Cprt,Linb 10102:Cprt,Linb 10107-10133:Cprt,Lina,Linb
10137-1013F:Cprt,Linb 102E0:Arab,Copt 102E1-102FB:Arab,Copt 10AF2:Mani,Ougr 11301:Gran,Taml
11303:Gran,Taml 1133B:Gran,Taml 1133C:Gran,Taml 11FD0-11FD1:Gran,Taml 11FD3:Gran,Taml
1BCA0-1BCA3:Dupl 1D360-1D371:Hani 1F250-1F251:Hani"

/-- The names of the scripts. -/
def scriptNames : List (String × String) := aliases
  "Adlm:adlam,adlm Aghb:aghb,caucasianalbanian Ahom:ahom Arab:arab,arabic Armi:armi,imperialaramaic
Armn:armenian,armn Avst:avestan,avst Bali:bali,balinese Bamu:bamu,bamum Bass:bass,bassavah
Batk:batak,batk Beng:beng,bengali Bhks:bhaiksuki,bhks Bopo:bopo,bopomofo Brah:brah,brahmi
Brai:brai,braille Bugi:bugi,buginese Buhd:buhd,buhid Cakm:cakm,chakma Cans:canadianaboriginal,cans
Cari:cari,carian Cham:cham Cher:cher,cherokee Chrs:chorasmian,chrs Copt:copt,coptic,qaac
Cpmn:cpmn,cyprominoan Cprt:cprt,cypriot Cyrl:cyrillic,cyrl Deva:deva,devanagari
Diak:diak,divesakuru Dogr:dogr,dogra Dsrt:deseret,dsrt Dupl:dupl,duployan
Egyp:egyp,egyptianhieroglyphs Elba:elba,elbasan Elym:elym,elymaic Ethi:ethi,ethiopic
Geor:geor,georgian Glag:glag,glagolitic Gong:gong,gunjalagondi Gonm:gonm,masaramgondi
Goth:goth,gothic Gran:gran,grantha Grek:greek,grek Gujr:gujarati,gujr Guru:gurmukhi,guru
Hang:hang,hangul Hani:han,hani Hano:hano,hanunoo Hatr:hatr,hatran Hebr:hebr,hebrew
Hira:hira,hiragana Hluw:anatolianhieroglyphs,hluw Hmng:hmng,pahawhhmong
Hmnp:hmnp,nyiakengpuachuehmong Hung:hung,oldhungarian Ital:ital,olditalic Java:java,javanese
Kali:kali,kayahli Kana:kana,katakana Kawi:kawi Khar:khar,kharoshthi Khmr:khmer,khmr
Khoj:khoj,khojki Kits:khitansmallscript,kits Knda:kannada,knda Kthi:kaithi,kthi Lana:lana,taitham
Laoo:lao,laoo Latn:latin,latn Lepc:lepc,lepcha Limb:limb,limbu Lina:lina,lineara Linb:linb,linearb
Lisu:lisu Lyci:lyci,lycian Lydi:lydi,lydian Mahj:mahajani,mahj Maka:maka,makasar Mand:mand,mandaic
Mani:mani,manichaean Marc:marc,marchen Medf:medefaidrin,medf Mend:mend,mendekikakui
Merc:merc,meroiticcursive Mero:mero,meroitichieroglyphs Mlym:malayalam,mlym Modi:modi
Mong:mong,mongolian Mroo:mro,mroo Mtei:meeteimayek,mtei Mult:mult,multani Mymr:myanmar,mymr
Nagm:nagm,nagmundari Nand:nand,nandinagari Narb:narb,oldnortharabian Nbat:nabataean,nbat Newa:newa
Nkoo:nko,nkoo Nshu:nshu,nushu Ogam:ogam,ogham Olck:olchiki,olck Orkh:oldturkic,orkh
Orya:oriya,orya Osge:osage,osge Osma:osma,osmanya Ougr:olduyghur,ougr Palm:palm,palmyrene
Pauc:pauc,paucinhau Perm:oldpermic,perm Phag:phag,phagspa Phli:inscriptionalpahlavi,phli
Phlp:phlp,psalterpahlavi Phnx:phnx,phoenician Plrd:miao,plrd Prti:inscriptionalparthian,prti
Rjng:rejang,rjng Rohg:hanifirohingya,rohg Runr:runic,runr Samr:samaritan,samr
Sarb:oldsoutharabian,sarb Saur:saur,saurashtra Sgnw:sgnw,signwriting Shaw:shavian,shaw
Shrd:sharada,shrd Sidd:sidd,siddham Sind:khudawadi,sind Sinh:sinh,sinhala Sogd:sogd,sogdian
Sogo:oldsogdian,sogo Sora:sora,sorasompeng Soyo:soyo,soyombo Sund:sund,sundanese
Sylo:sylo,sylotinagri Syrc:syrc,syriac Tagb:tagb,tagbanwa Takr:takr,takri Tale:taile,tale
Talu:newtailue,talu Taml:tamil,taml Tang:tang,tangut Tavt:taiviet,tavt Telu:telu,telugu
Tfng:tfng,tifinagh Tglg:tagalog,tglg Thaa:thaa,thaana Thai:thai Tibt:tibetan,tibt
Tirh:tirh,tirhuta Tnsa:tangsa,tnsa Toto:toto Ugar:ugar,ugaritic Vaii:vai,vaii Vith:vith,vithkuqi
Wara:wara,warangciti Wcho:wancho,wcho Xpeo:oldpersian,xpeo Xsux:cuneiform,xsux Yezi:yezi,yezidi
Yiii:yi,yiii Zanb:zanabazarsquare,zanb Zinh:inherited,qaai,zinh Zyyy:common,zyyy"

/-- The scripts in runs. -/
def scriptRuns : List Run := runs 4 scriptTable

/-- The shared ranges and their scripts. -/
def shared : List ((Nat × Nat) × List String) :=
  (words sharedTable).map fun w ↦
    let range := w.takeWhile (· ≠ ':')
    let first := hex (range.takeWhile (· ≠ '-'))
    let rest := (range.dropWhile (· ≠ '-')).drop 1
    ((first, if rest.isEmpty then first else hex rest),
      (((w.dropWhile (· ≠ ':')).drop 1).splitOn ',').map String.ofList)

/-- The code points of a script. -/
def ofScript (code : String) : CodeSet :=
  select (fun c ↦ c == code.toList) scriptRuns

/-- The code points that a script uses, alone or with others. -/
def ofScriptExtended (code : String) : CodeSet :=
  let here := shared.filter fun s ↦ s.2.contains code
  ((ofScript code).diff (.ofRanges (shared.map (·.1)))).union (.ofRanges (here.map (·.1)))

end StatusRollup.Unicode
