import ProductQuery.Text.Partition
/-!
# Text.Unicode.Script — the scripts of every code point

One table gives the script of a code point, the other all the scripts that use it.  Both list runs of code points from
zero upwards; a script is named by four letters.
-/
namespace ProductQuery
namespace Script

/-- Runs of code points: a length in base 36 and a script. -/
def runs : String := "
  1tZyyy qLatn 6Zyyy qLatn 1bZyyy 1Latn fZyyy 1Latn 5Zyyy nLatn 1Zyyy vLatn 1Zyyy chLatn 13Zyyy 5Latn 5Zyyy
  2Bopo kZyyy 34Zinh 4Grek 1Zyyy 3Grek 2Zzzz 4Grek 1Zyyy 1Grek 4Zzzz 1Grek 1Zyyy 1Grek 1Zyyy 3Grek 1Zzzz 1Grek
  1Zzzz kGrek 1Zzzz 1rGrek eCopt gGrek 3pCyrl 2Zinh 4pCyrl 1Zzzz 12Armn 2Zzzz 1eArmn 2Zzzz 3Armn 1Zzzz 1jHebr
  8Zzzz rHebr 4Zzzz 6Hebr bZzzz 5Arab 1Zyyy 6Arab 1Zyyy eArab 1Zyyy 3Arab 1Zyyy wArab 1Zyyy aArab bZinh qArab
  1Zinh 30Arab 1Zyyy yArab eSyrc 1Zzzz 1oSyrc 2Zzzz 3Syrc 1cArab 1eThaa eZzzz 1nNkoo 2Zzzz 3Nkoo 1aSamr 2Zzzz
  fSamr 1Zzzz sMand 2Zzzz 1Mand 1Zzzz bSyrc 5Zzzz vArab 1Zzzz 2Arab 6Zzzz 22Arab 1Zyyy tArab 29Deva 4Zinh
  fDeva 2Zyyy qDeva 4Beng 1Zzzz 8Beng 2Zzzz 2Beng 2Zzzz mBeng 1Zzzz 7Beng 1Zzzz 1Beng 3Zzzz 4Beng 2Zzzz 9Beng
  2Zzzz 2Beng 2Zzzz 4Beng 8Zzzz 1Beng 4Zzzz 2Beng 1Zzzz 5Beng 2Zzzz pBeng 2Zzzz 3Guru 1Zzzz 6Guru 4Zzzz 2Guru
  2Zzzz mGuru 1Zzzz 7Guru 1Zzzz 2Guru 1Zzzz 2Guru 1Zzzz 2Guru 2Zzzz 1Guru 1Zzzz 5Guru 4Zzzz 2Guru 2Zzzz 3Guru
  3Zzzz 1Guru 7Zzzz 4Guru 1Zzzz 1Guru 7Zzzz hGuru aZzzz 3Gujr 1Zzzz 9Gujr 1Zzzz 3Gujr 1Zzzz mGujr 1Zzzz 7Gujr
  1Zzzz 2Gujr 1Zzzz 5Gujr 2Zzzz aGujr 1Zzzz 3Gujr 1Zzzz 3Gujr 2Zzzz 1Gujr fZzzz 4Gujr 2Zzzz cGujr 7Zzzz 7Gujr
  1Zzzz 3Orya 1Zzzz 8Orya 2Zzzz 2Orya 2Zzzz mOrya 1Zzzz 7Orya 1Zzzz 2Orya 1Zzzz 5Orya 2Zzzz 9Orya 2Zzzz 2Orya
  2Zzzz 3Orya 7Zzzz 3Orya 4Zzzz 2Orya 1Zzzz 5Orya 2Zzzz iOrya aZzzz 2Taml 1Zzzz 6Taml 3Zzzz 3Taml 1Zzzz 4Taml
  3Zzzz 2Taml 1Zzzz 1Taml 1Zzzz 2Taml 3Zzzz 2Taml 3Zzzz 3Taml 3Zzzz cTaml 4Zzzz 5Taml 3Zzzz 3Taml 1Zzzz 4Taml
  2Zzzz 1Taml 6Zzzz 1Taml eZzzz lTaml 5Zzzz dTelu 1Zzzz 3Telu 1Zzzz nTelu 1Zzzz gTelu 2Zzzz 9Telu 1Zzzz 3Telu
  1Zzzz 4Telu 7Zzzz 2Telu 1Zzzz 3Telu 2Zzzz 1Telu 2Zzzz 4Telu 2Zzzz aTelu 7Zzzz 9Telu dKnda 1Zzzz 3Knda 1Zzzz
  nKnda 1Zzzz aKnda 1Zzzz 5Knda 2Zzzz 9Knda 1Zzzz 3Knda 1Zzzz 4Knda 7Zzzz 2Knda 6Zzzz 2Knda 1Zzzz 4Knda 2Zzzz
  aKnda 1Zzzz 3Knda cZzzz dMlym 1Zzzz 3Mlym 1Zzzz 1fMlym 1Zzzz 3Mlym 1Zzzz 6Mlym 4Zzzz gMlym 2Zzzz qMlym 1Zzzz
  3Sinh 1Zzzz iSinh 3Zzzz oSinh 1Zzzz 9Sinh 1Zzzz 1Sinh 2Zzzz 7Sinh 3Zzzz 1Sinh 4Zzzz 6Sinh 1Zzzz 1Sinh 1Zzzz
  8Sinh 6Zzzz aSinh 2Zzzz 3Sinh cZzzz 1mThai 4Zzzz 1Zyyy sThai 11Zzzz 2Laoo 1Zzzz 1Laoo 1Zzzz 5Laoo 1Zzzz
  oLaoo 1Zzzz 1Laoo 1Zzzz nLaoo 2Zzzz 5Laoo 1Zzzz 1Laoo 1Zzzz 7Laoo 1Zzzz aLaoo 2Zzzz 4Laoo wZzzz 20Tibt 1Zzzz
  10Tibt 4Zzzz 13Tibt 1Zzzz 10Tibt 1Zzzz fTibt 1Zzzz 7Tibt 4Zyyy 2Tibt 11Zzzz 4gMymr 12Geor 1Zzzz 1Geor 5Zzzz
  1Geor 2Zzzz 17Geor 1Zyyy 4Geor 74Hang 21Ethi 1Zzzz 4Ethi 2Zzzz 7Ethi 1Zzzz 1Ethi 1Zzzz 4Ethi 2Zzzz 15Ethi
  1Zzzz 4Ethi 2Zzzz xEthi 1Zzzz 4Ethi 2Zzzz 7Ethi 1Zzzz 1Ethi 1Zzzz 4Ethi 2Zzzz fEthi 1Zzzz 1lEthi 1Zzzz 4Ethi
  2Zzzz 1vEthi 2Zzzz wEthi 3Zzzz qEthi 6Zzzz 2eCher 2Zzzz 6Cher 2Zzzz hsCans tOgam 3Zzzz 23Runr 3Zyyy bRunr
  7Zzzz mTglg 9Zzzz 1Tglg lHano 2Zyyy 9Zzzz kBuhd cZzzz dTagb 1Zzzz 3Tagb 1Zzzz 2Tagb cZzzz 2mKhmr 2Zzzz aKhmr
  6Zzzz aKhmr 6Zzzz 2Mong 2Zyyy 1Mong 1Zyyy kMong 6Zzzz 2hMong 7Zzzz 17Mong 5Zzzz 1yCans aZzzz vLimb 1Zzzz
  cLimb 4Zzzz cLimb 4Zzzz 1Limb 3Zzzz cLimb uTale 2Zzzz 5Tale bZzzz 18Talu 4Zzzz qTalu 6Zzzz bTalu 3Zzzz 2Talu
  wKhmr sBugi 2Zzzz 2Bugi 1rLana 1Zzzz tLana 2Zzzz bLana 6Zzzz aLana 6Zzzz eLana 2Zzzz vZinh 1dZzzz 25Bali
  3Zzzz 1bBali 1Zzzz 1sSund 1gBatk 8Zzzz 4Batk 1kLepc 3Zzzz fLepc 3Zzzz 3Lepc 1cOlck 9Cyrl 7Zzzz 17Geor 2Zzzz
  3Geor 8Sund 8Zzzz 3Zinh 1Zyyy dZinh 1Zyyy 7Zinh 4Zyyy 1Zinh 6Zyyy 1Zinh 3Zyyy 2Zinh 1Zyyy 5Zzzz 12Latn 5Grek
  1Cyrl 1dLatn 5Grek 4Latn 5Grek dLatn 1Cyrl 1yLatn 1Grek 1sZinh 74Latn mGrek 2Zzzz 6Grek 2Zzzz 12Grek 2Zzzz
  6Grek 2Zzzz 8Grek 1Zzzz 1Grek 1Zzzz 1Grek 1Zzzz 1Grek 1Zzzz vGrek 2Zzzz 1hGrek 1Zzzz fGrek 1Zzzz eGrek 2Zzzz
  6Grek 1Zzzz jGrek 2Zzzz 3Grek 1Zzzz 9Grek 1Zzzz cZyyy 2Zinh 2fZyyy 1Zzzz bZyyy 1Latn 2Zzzz bZyyy 1Latn fZyyy
  1Zzzz dLatn 3Zzzz xZyyy fZzzz xZinh fZzzz 12Zyyy 1Grek 3Zyyy 2Latn 6Zyyy 1Latn rZyyy 1Latn hZyyy 15Latn
  3Zyyy 4Zzzz ifZyyy pZzzz bZyyy lZzzz psZyyy 74Brai hgZyyy 2Zzzz wZyyy 1Zzzz 2xZyyy 2oGlag wLatn 38Copt 5Zzzz
  7Copt 12Geor 1Zzzz 1Geor 5Zzzz 1Geor 2Zzzz 1kTfng 7Zzzz 2Tfng eZzzz 1Tfng nEthi 9Zzzz 7Ethi 1Zzzz 7Ethi
  1Zzzz 7Ethi 1Zzzz 7Ethi 1Zzzz 7Ethi 1Zzzz 7Ethi 1Zzzz 7Ethi 1Zzzz 7Ethi 1Zzzz wCyrl 2mZyyy yZzzz qHani 1Zzzz
  2hHani cZzzz 5yHani qZzzz cZyyy 4Zzzz 5Zyyy 1Hani 1Zyyy 1Hani pZyyy 9Hani 4Zinh 2Hang 8Zyyy 4Hani 4Zyyy
  1Zzzz 2eHira 2Zzzz 2Zinh 2Zyyy 3Hira 1Zyyy 2iKana 2Zyyy 3Kana 5Zzzz 17Bopo 1Zzzz 2mHang 1Zzzz gZyyy wBopo
  10Zyyy cZzzz gKana vHang 1Zzzz 1sZyyy vHang 29Zyyy 1bKana 1Zyyy 2gKana 4oZyyy 534Hani 1sZyyy g74Hani wdYiii
  3Zzzz 1jYiii 9Zzzz 1cLisu 8cVaii kZzzz 2oCyrl 2gBamu 8Zzzz yZyyy 2uLatn 3Zyyy 1sLatn 5Zzzz 2Latn 1Zzzz 1Latn
  1Zzzz 5Latn oZzzz eLatn 19Sylo 3Zzzz aZyyy 6Zzzz 1kPhag 8Zzzz 1ySaur 8Zzzz cSaur 6Zzzz wDeva 1aKali 1Zyyy
  1Kali 10Rjng bZzzz 1Rjng tHang 3Zzzz 26Java 1Zzzz 1Zyyy aJava 4Zzzz 2Java vMymr 1Zzzz 1jCham 9Zzzz eCham
  2Zzzz aCham 2Zzzz 4Cham wMymr 1vTavt oZzzz 5Tavt nMtei aZzzz 6Ethi 2Zzzz 6Ethi 2Zzzz 6Ethi 9Zzzz 7Ethi 1Zzzz
  7Ethi 1Zzzz 17Latn 1Zyyy 9Latn 1Grek 4Latn 2Zyyy 4Zzzz 28Cher 1aMtei 2Zzzz aMtei 6Zzzz 8mcHang cZzzz nHang
  4Zzzz 1dHang 6isZzzz a6Hani 2Zzzz 2yHani 12Zzzz 7Latn cZzzz 5Armn 5Zzzz qHebr 1Zzzz 5Hebr 1Zzzz 1Hebr 1Zzzz
  2Hebr 1Zzzz 2Hebr 1Zzzz aHebr 37Arab gZzzz a3Arab 2Zyyy 28Arab 2Zzzz 1iArab 7Zzzz 1Arab wZzzz gArab gZinh
  aZyyy 6Zzzz eZinh 2Cyrl zZyyy 1Zzzz jZyyy 1Zzzz 4Zyyy 4Zzzz 5Arab 1Zzzz 3rArab 2Zzzz 1Zyyy 1Zzzz wZyyy qLatn
  6Zyyy qLatn bZyyy aKana 1Zyyy 19Kana 2Zyyy vHang 3Zzzz 6Hang 2Zzzz 6Hang 2Zzzz 6Hang 2Zzzz 3Hang 3Zzzz 7Zyyy
  1Zzzz 7Zyyy aZzzz 5Zyyy 2Zzzz cLinb 1Zzzz qLinb 1Zzzz jLinb 1Zzzz 2Linb 1Zzzz fLinb 2Zzzz eLinb yZzzz 3fLinb
  5Zzzz 3Zyyy 4Zzzz 19Zyyy 3Zzzz 9Zyyy 27Grek 1Zzzz dZyyy 3Zzzz 1Grek 1bZzzz 19Zyyy 1Zinh 3mZzzz tLyci 3Zzzz
  1dCari fZzzz 1Zinh rZyyy 4Zzzz 10Ital 9Zzzz 3Ital rGoth 5Zzzz 17Perm 5Zzzz uUgar 1Zzzz 1Ugar 10Xpeo 4Zzzz
  eXpeo 16Zzzz 28Dsrt 1cShaw uOsma 2Zzzz aOsma 6Zzzz 10Osge 4Zzzz 10Osge 4Zzzz 14Elba 8Zzzz 1gAghb bZzzz 1Aghb
  bVith 1Zzzz fVith 1Zzzz 7Vith 1Zzzz 2Vith 1Zzzz bVith 1Zzzz fVith 1Zzzz 7Vith 1Zzzz 2Vith 1vZzzz 8nLina
  9Zzzz mLina aZzzz 8Lina oZzzz 6Latn 1Zzzz 16Latn 1Zzzz 9Latn 1xZzzz 6Cprt 2Zzzz 1Cprt 1Zzzz 18Cprt 1Zzzz
  2Cprt 3Zzzz 1Cprt 2Zzzz 1Cprt mArmi 1Zzzz 9Armi wPalm vNbat 8Zzzz 9Nbat 1cZzzz jHatr 1Zzzz 2Hatr 5Zzzz 5Hatr
  sPhnx 3Zzzz 1Phnx qLydi 5Zzzz 1Lydi 1sZzzz wMero oMerc 4Zzzz kMerc 2Zzzz 1aMerc 4Khar 1Zzzz 2Khar 5Zzzz
  8Khar 1Zzzz 3Khar 1Zzzz tKhar 2Zzzz 3Khar 4Zzzz aKhar 7Zzzz 9Khar 7Zzzz wSarb wNarb wZzzz 13Mani 4Zzzz cMani
  9Zzzz 1iAvst 3Zzzz 7Avst mPrti 2Zzzz 8Prti jPhli 5Zzzz 8Phli iPhlp 7Zzzz 4Phlp cZzzz 7Phlp 28Zzzz 21Orkh
  1jZzzz 1fHung dZzzz 1fHung 7Zzzz 6Hung 14Rohg 8Zzzz aRohg 86Zzzz vArab 1Zzzz 16Yezi 1Zzzz 3Yezi 2Zzzz 2Yezi
  23Zzzz 3Arab 14Sogo 8Zzzz 16Sogd mZzzz qOugr 12Zzzz sChrs kZzzz nElym 9Zzzz 26Brah 4Zzzz 10Brah 9Zzzz 1Brah
  1vKthi aZzzz 1Kthi 2Zzzz pSora 7Zzzz aSora 6Zzzz 1hCakm 1Zzzz iCakm 8Zzzz 13Mahj 9Zzzz 2oShrd 1Zzzz kSinh
  bZzzz iKhoj 1Zzzz 1bKhoj 1qZzzz 7Mult 1Zzzz 1Mult 1Zzzz 4Mult 1Zzzz fMult 1Zzzz bMult 6Zzzz 1nSind 5Zzzz
  aSind 6Zzzz 4Gran 1Zzzz 8Gran 2Zzzz 2Gran 2Zzzz mGran 1Zzzz 7Gran 1Zzzz 2Gran 1Zzzz 5Gran 1Zzzz 1Zinh 9Gran
  2Zzzz 2Gran 2Zzzz 3Gran 2Zzzz 1Gran 6Zzzz 1Gran 5Zzzz 7Gran 2Zzzz 7Gran 3Zzzz 5Gran 3vZzzz 2kNewa 1Zzzz
  5Newa uZzzz 20Tirh 8Zzzz aTirh 4mZzzz 1iSidd 2Zzzz 12Sidd yZzzz 1xModi bZzzz aModi 6Zzzz dMong jZzzz 1mTakr
  6Zzzz aTakr 1iZzzz rAhom 2Zzzz fAhom 4Zzzz nAhom 55Zzzz 1oDogr 2sZzzz 2bWara cZzzz 1Wara 7Diak 2Zzzz 1Diak
  2Zzzz 8Diak 1Zzzz 2Diak 1Zzzz uDiak 1Zzzz 2Diak 2Zzzz cDiak 9Zzzz aDiak 1yZzzz 8Nand 2Zzzz 1aNand 2Zzzz
  bNand rZzzz 20Zanb 8Zzzz 2bSoyo dZzzz gCans 1lPauc 7Zzzz aDeva 6uZzzz 9Bhks 1Zzzz 19Bhks 1Zzzz eBhks aZzzz
  tBhks 3Zzzz wMarc 2Zzzz mMarc 1Zzzz eMarc 21Zzzz 7Gonm 1Zzzz 2Gonm 1Zzzz 18Gonm 3Zzzz 1Gonm 1Zzzz 2Gonm
  1Zzzz 9Gonm 8Zzzz aGonm 6Zzzz 6Gong 1Zzzz 2Gong 1Zzzz 11Gong 1Zzzz 2Gong 1Zzzz 6Gong 7Zzzz aGong 8mZzzz
  pMaka 7Zzzz hKawi 1Zzzz 15Kawi 3Zzzz sKawi 2eZzzz 1Lisu fZzzz 1eTaml dZzzz 1Taml pmXsux 2uZzzz 33Xsux 1Zzzz
  5Xsux bZzzz 5gXsux 218Zzzz 2rCpmn dZzzz uuEgyp 33eZzzz g7Hluw 6ntZzzz ftBamu 7Zzzz vMroo 1Zzzz aMroo 4Zzzz
  2Mroo 27Tnsa 1Zzzz aTnsa 6Zzzz uBass 2Zzzz 6Bass aZzzz 1yHmng aZzzz aHmng 1Zzzz 7Hmng 1Zzzz lHmng 5Zzzz
  jHmng j4Zzzz 2jMedf 2tZzzz 23Plrd 4Zzzz 1lPlrd 7Zzzz hPlrd 1sZzzz 1Tang 1Nshu 2Hani 1Kits bZzzz 2Hani eZzzz
  4qgTang 8Zzzz lcTang d2Kits 16Zzzz 9Tang 6w7Zzzz 4Kana 1Zzzz 7Kana 1Zzzz 2Kana 1Zzzz 1Kana 7zHira 3Kana
  fZzzz 1Hira tZzzz 3Hira 2Zzzz 1Kana eZzzz 4Kana 8Zzzz b0Nshu 1s4Zzzz 2zDupl 5Zzzz dDupl 3Zzzz 9Dupl 7Zzzz
  aDupl 2Zzzz 4Dupl 4Zyyy 3mkZzzz 1aZinh 2Zzzz nZinh 9Zzzz 38Zyyy 1oZzzz 6uZyyy aZzzz 13Zyyy 2Zzzz 1qZyyy
  3Zinh hZyyy 8Zinh 2Zyyy 7Zinh uZyyy 4Zinh 1pZyyy lZzzz 1yGrek 3eZzzz kZyyy cZzzz kZyyy cZzzz 2fZyyy 9Zzzz
  pZyyy 3rZzzz 2dZyyy 1Zzzz 1zZyyy 1Zzzz 2Zyyy 2Zzzz 1Zyyy 2Zzzz 2Zyyy 2Zzzz 4Zyyy 1Zzzz cZyyy 1Zzzz 1Zyyy
  1Zzzz 7Zyyy 1Zzzz 1tZyyy 1Zzzz 4Zyyy 2Zzzz 8Zyyy 1Zzzz 7Zyyy 1Zzzz sZyyy 1Zzzz 4Zyyy 1Zzzz 5Zyyy 1Zzzz 1Zyyy
  3Zzzz 7Zyyy 1Zzzz 9gZyyy 2Zzzz 84Zyyy 2Zzzz 1eZyyy i4Sgnw fZzzz 5Sgnw 1Zzzz fSgnw uoZzzz vLatn 6Zzzz 6Latn
  5xZzzz 7Glag 1Zzzz hGlag 2Zzzz 7Glag 1Zzzz 2Glag 1Zzzz 5Glag 5Zzzz 1qCyrl xZzzz 1Cyrl 34Zzzz 19Hmnp 3Zzzz
  eHmnp 2Zzzz aHmnp 4Zzzz 2Hmnp 8wZzzz vToto hZzzz 1mWcho 5Zzzz 1Wcho cwZzzz 16Nagm kmZzzz 7Ethi 1Zzzz 4Ethi
  1Zzzz 2Ethi 1Zzzz fEthi 1Zzzz 5hMend 2Zzzz gMend 15Zzzz 24Adlm 4Zzzz aAdlm 4Zzzz 2Adlm ltZzzz 1wZyyy 24Zzzz
  1pZyyy 5eZzzz 4Arab 1Zzzz rArab 1Zzzz 2Arab 1Zzzz 1Arab 2Zzzz 1Arab 1Zzzz aArab 1Zzzz 4Arab 1Zzzz 1Arab
  1Zzzz 1Arab 6Zzzz 1Arab 4Zzzz 1Arab 1Zzzz 1Arab 1Zzzz 1Arab 1Zzzz 3Arab 1Zzzz 2Arab 1Zzzz 1Arab 2Zzzz 1Arab
  1Zzzz 1Arab 1Zzzz 1Arab 1Zzzz 1Arab 1Zzzz 1Arab 1Zzzz 2Arab 1Zzzz 1Arab 2Zzzz 4Arab 1Zzzz 7Arab 1Zzzz 4Arab
  1Zzzz 4Arab 1Zzzz 1Arab 1Zzzz aArab 1Zzzz hArab 5Zzzz 3Arab 1Zzzz 5Arab 1Zzzz hArab 1gZzzz 2Arab 7iZzzz
  18Zyyy 4Zzzz 2sZyyy cZzzz fZyyy 2Zzzz fZyyy 1Zzzz fZyyy 1Zzzz 11Zyyy aZzzz 4uZyyy 1kZzzz qZyyy 1Hira 2Zyyy
  dZzzz 18Zyyy 4Zzzz 9Zyyy 7Zzzz 2Zyyy eZzzz 6Zyyy 4aZzzz rcZyyy 4Zzzz hZyyy 3Zzzz dZyyy 3Zzzz 3bZyyy 4Zzzz
  2nZyyy 6Zzzz cZyyy 4Zzzz 1Zyyy fZzzz cZyyy 4Zzzz 1kZyyy 8Zzzz aZyyy 6Zzzz 14Zyyy 8Zzzz uZyyy 2Zzzz 2Zyyy
  26Zzzz 9gZyyy cZzzz eZyyy 2Zzzz dZyyy 3Zzzz 9Zyyy 7Zzzz 1aZyyy 1Zzzz 7Zyyy 8Zzzz eZyyy 4Zzzz 9Zyyy 7Zzzz
  9Zyyy 7Zzzz 43Zyyy 1Zzzz 1jZyyy 11Zzzz aZyyy smZzzz wyoHani wZzzz 37eHani 6Zzzz 66Hani 2Zzzz 4g2Hani eZzzz
  5rlHani 2e7Zzzz f2Hani 15uZzzz 3t7Hani 5Zzzz 38gHani f975Zzzz 1Zyyy uZzzz 2oZyyy 3kZzzz 6oZinh 47bkZzzz"

/-- Runs of code points: a length in base 36 and one or more scripts. -/
def extensionRuns : String := "
  1tZyyy qLatn 6Zyyy qLatn 1bZyyy 1Latn fZyyy 1Latn 5Zyyy nLatn 1Zyyy vLatn 1Zyyy chLatn 13Zyyy 5Latn 5Zyyy
  2Bopo kZyyy 1uZinh 1Grek 2Zinh 1Grek tZinh dLatn 4Grek 1Zyyy 3Grek 2Zzzz 4Grek 1Zyyy 1Grek 4Zzzz 1Grek 1Zyyy
  1Grek 1Zyyy 3Grek 1Zzzz 1Grek 1Zzzz kGrek 1Zzzz 1rGrek eCopt gGrek 3nCyrl 1CyrlPerm 1CyrlGlag 2CyrlLatn
  1CyrlGlag 4oCyrl 1Zzzz 12Armn 2Zzzz 1eArmn 2Zzzz 3Armn 1Zzzz 1jHebr 8Zzzz rHebr 4Zzzz 6Hebr bZzzz 5Arab
  1Zyyy 6Arab 1ArabNkooRohgSyrcThaaYezi eArab 1ArabNkooRohgSyrcThaaYezi 1ArabSyrcThaa 2Arab
  1AdlmArabNkooRohgSyrcThaaYezi wArab 1AdlmArabMandManiOugrPhlpRohgSogdSyrc aArab bArabSyrc aArab
  aArabThaaYezi 6Arab 1ArabSyrc 2rArab 1ArabRohg 8Arab 1Zyyy yArab eSyrc 1Zzzz 1oSyrc 2Zzzz 3Syrc 1cArab
  1eThaa eZzzz 1nNkoo 2Zzzz 3Nkoo 1aSamr 2Zzzz fSamr 1Zzzz sMand 2Zzzz 1Mand 1Zzzz bSyrc 5Zzzz vArab 1Zzzz
  2Arab 6Zzzz 22Arab 1Zyyy tArab 29Deva 1BengDevaGranGujrGuruKndaLatnMlymOryaShrdTamlTeluTirh
  1BengDevaGranGujrGuruKndaLatnMlymOryaTamlTeluTirh 2Zinh fDeva
  1BengDevaDogrGongGonmGranGujrGuruKndaMahjMlymNandOryaSindSinhSyloTakrTamlTeluTirh
  1BengDevaDogrGongGonmGranGujrGuruKndaLimbMahjMlymNandOryaSindSinhSyloTakrTamlTeluTirh aDevaDogrKthiMahj
  gDeva 4Beng 1Zzzz 8Beng 2Zzzz 2Beng 2Zzzz mBeng 1Zzzz 7Beng 1Zzzz 1Beng 3Zzzz 4Beng 2Zzzz 9Beng 2Zzzz 2Beng
  2Zzzz 4Beng 8Zzzz 1Beng 4Zzzz 2Beng 1Zzzz 5Beng 2Zzzz aBengCakmSylo fBeng 2Zzzz 3Guru 1Zzzz 6Guru 4Zzzz
  2Guru 2Zzzz mGuru 1Zzzz 7Guru 1Zzzz 2Guru 1Zzzz 2Guru 1Zzzz 2Guru 2Zzzz 1Guru 1Zzzz 5Guru 4Zzzz 2Guru 2Zzzz
  3Guru 3Zzzz 1Guru 7Zzzz 4Guru 1Zzzz 1Guru 7Zzzz aGuruMult 7Guru aZzzz 3Gujr 1Zzzz 9Gujr 1Zzzz 3Gujr 1Zzzz
  mGujr 1Zzzz 7Gujr 1Zzzz 2Gujr 1Zzzz 5Gujr 2Zzzz aGujr 1Zzzz 3Gujr 1Zzzz 3Gujr 2Zzzz 1Gujr fZzzz 4Gujr 2Zzzz
  aGujrKhoj 2Gujr 7Zzzz 7Gujr 1Zzzz 3Orya 1Zzzz 8Orya 2Zzzz 2Orya 2Zzzz mOrya 1Zzzz 7Orya 1Zzzz 2Orya 1Zzzz
  5Orya 2Zzzz 9Orya 2Zzzz 2Orya 2Zzzz 3Orya 7Zzzz 3Orya 4Zzzz 2Orya 1Zzzz 5Orya 2Zzzz iOrya aZzzz 2Taml 1Zzzz
  6Taml 3Zzzz 3Taml 1Zzzz 4Taml 3Zzzz 2Taml 1Zzzz 1Taml 1Zzzz 2Taml 3Zzzz 2Taml 3Zzzz 3Taml 3Zzzz cTaml 4Zzzz
  5Taml 3Zzzz 3Taml 1Zzzz 4Taml 2Zzzz 1Taml 6Zzzz 1Taml eZzzz eGranTaml 7Taml 5Zzzz dTelu 1Zzzz 3Telu 1Zzzz
  nTelu 1Zzzz gTelu 2Zzzz 9Telu 1Zzzz 3Telu 1Zzzz 4Telu 7Zzzz 2Telu 1Zzzz 3Telu 2Zzzz 1Telu 2Zzzz 4Telu 2Zzzz
  aTelu 7Zzzz 9Telu dKnda 1Zzzz 3Knda 1Zzzz nKnda 1Zzzz aKnda 1Zzzz 5Knda 2Zzzz 9Knda 1Zzzz 3Knda 1Zzzz 4Knda
  7Zzzz 2Knda 6Zzzz 2Knda 1Zzzz 4Knda 2Zzzz aKndaNand 1Zzzz 3Knda cZzzz dMlym 1Zzzz 3Mlym 1Zzzz 1fMlym 1Zzzz
  3Mlym 1Zzzz 6Mlym 4Zzzz gMlym 2Zzzz qMlym 1Zzzz 3Sinh 1Zzzz iSinh 3Zzzz oSinh 1Zzzz 9Sinh 1Zzzz 1Sinh 2Zzzz
  7Sinh 3Zzzz 1Sinh 4Zzzz 6Sinh 1Zzzz 1Sinh 1Zzzz 8Sinh 6Zzzz aSinh 2Zzzz 3Sinh cZzzz 1mThai 4Zzzz 1Zyyy sThai
  11Zzzz 2Laoo 1Zzzz 1Laoo 1Zzzz 5Laoo 1Zzzz oLaoo 1Zzzz 1Laoo 1Zzzz nLaoo 2Zzzz 5Laoo 1Zzzz 1Laoo 1Zzzz 7Laoo
  1Zzzz aLaoo 2Zzzz 4Laoo wZzzz 20Tibt 1Zzzz 10Tibt 4Zzzz 13Tibt 1Zzzz 10Tibt 1Zzzz fTibt 1Zzzz 7Tibt 4Zyyy
  2Tibt 11Zzzz 1sMymr aCakmMymrTale 2eMymr 12Geor 1Zzzz 1Geor 5Zzzz 1Geor 2Zzzz 17Geor 1GeorLatn 4Geor 74Hang
  21Ethi 1Zzzz 4Ethi 2Zzzz 7Ethi 1Zzzz 1Ethi 1Zzzz 4Ethi 2Zzzz 15Ethi 1Zzzz 4Ethi 2Zzzz xEthi 1Zzzz 4Ethi
  2Zzzz 7Ethi 1Zzzz 1Ethi 1Zzzz 4Ethi 2Zzzz fEthi 1Zzzz 1lEthi 1Zzzz 4Ethi 2Zzzz 1vEthi 2Zzzz wEthi 3Zzzz
  qEthi 6Zzzz 2eCher 2Zzzz 6Cher 2Zzzz hsCans tOgam 3Zzzz 23Runr 3Zyyy bRunr 7Zzzz mTglg 9Zzzz 1Tglg lHano
  2BuhdHanoTagbTglg 9Zzzz kBuhd cZzzz dTagb 1Zzzz 3Tagb 1Zzzz 2Tagb cZzzz 2mKhmr 2Zzzz aKhmr 6Zzzz aKhmr 6Zzzz
  2Mong 2MongPhag 1Mong 1MongPhag kMong 6Zzzz 2hMong 7Zzzz 17Mong 5Zzzz 1yCans aZzzz vLimb 1Zzzz cLimb 4Zzzz
  cLimb 4Zzzz 1Limb 3Zzzz cLimb uTale 2Zzzz 5Tale bZzzz 18Talu 4Zzzz qTalu 6Zzzz bTalu 3Zzzz 2Talu wKhmr sBugi
  2Zzzz 2Bugi 1rLana 1Zzzz tLana 2Zzzz bLana 6Zzzz aLana 6Zzzz eLana 2Zzzz vZinh 1dZzzz 25Bali 3Zzzz 1bBali
  1Zzzz 1sSund 1gBatk 8Zzzz 4Batk 1kLepc 3Zzzz fLepc 3Zzzz 3Lepc 1cOlck 9Cyrl 7Zzzz 17Geor 2Zzzz 3Geor 8Sund
  8Zzzz 1BengDevaGranKnda 1Deva 1BengDevaGranKnda 1DevaGran 1Deva 2BengDeva 1DevaShrd 1BengDeva 1DevaShrd
  1DevaKndaMlymOryaTamlTelu 1Deva 2DevaShrd 2Deva 1DevaShrd 1BengDeva 7Deva 1DevaNand 1BengDeva 2Deva
  1BengDeva 4Deva 1BengDevaGranKndaNandOryaTeluTirh 1DevaGran 1DevaGranKnda 2BengDeva 1Beng 2DevaGran 1Nand
  5Zzzz 12Latn 5Grek 1Cyrl 1dLatn 5Grek 4Latn 5Grek dLatn 1Cyrl 1yLatn 3Grek 1iZinh 1CyrlSyrc 1Zinh 1Syrc
  5Zinh 74Latn mGrek 2Zzzz 6Grek 2Zzzz 12Grek 2Zzzz 6Grek 2Zzzz 8Grek 1Zzzz 1Grek 1Zzzz 1Grek 1Zzzz 1Grek
  1Zzzz vGrek 2Zzzz 1hGrek 1Zzzz fGrek 1Zzzz eGrek 2Zzzz 6Grek 1Zzzz jGrek 2Zzzz 3Grek 1Zzzz 9Grek 1Zzzz cZyyy
  2Zinh xZyyy 1LatnMong 1hZyyy 1Zzzz bZyyy 1Latn 2Zzzz bZyyy 1Latn fZyyy 1Zzzz dLatn 3Zzzz xZyyy fZzzz wZinh
  1DevaGranLatn fZzzz 12Zyyy 1Grek 3Zyyy 2Latn 6Zyyy 1Latn rZyyy 1Latn hZyyy 15Latn 3Zyyy 4Zzzz ifZyyy pZzzz
  bZyyy lZzzz psZyyy 74Brai hgZyyy 2Zzzz wZyyy 1Zzzz 2xZyyy 2oGlag wLatn 38Copt 5Zzzz 7Copt 12Geor 1Zzzz 1Geor
  5Zzzz 1Geor 2Zzzz 1kTfng 7Zzzz 2Tfng eZzzz 1Tfng nEthi 9Zzzz 7Ethi 1Zzzz 7Ethi 1Zzzz 7Ethi 1Zzzz 7Ethi 1Zzzz
  7Ethi 1Zzzz 7Ethi 1Zzzz 7Ethi 1Zzzz 7Ethi 1Zzzz wCyrl 1vZyyy 1CyrlGlag qZyyy yZzzz qHani 1Zzzz 2hHani cZzzz
  5yHani qZzzz cZyyy 4Zzzz 1Zyyy 2BopoHangHaniHiraKanaYiii 1BopoHangHaniHiraKana 1Zyyy 3Hani
  aBopoHangHaniHiraKanaYiii 1Zyyy 1BopoHangHaniHiraKana 8BopoHangHaniHiraKanaYiii 4BopoHangHaniHiraKana 1Zyyy
  9Hani 4BopoHani 2Hang 1BopoHangHaniHiraKana 5HiraKana 1Zyyy 1BopoHangHaniHiraKana 4Hani 2HaniHiraKana 2Hani
  1Zzzz 2eHira 2Zzzz 4HiraKana 3Hira 1HiraKana 2iKana 1BopoHangHaniHiraKanaYiii 1HiraKana 3Kana 5Zzzz 17Bopo
  1Zzzz 2mHang 1Zzzz gHani wBopo 10Hani cZzzz gKana vHang 1Zzzz 14Hani oZyyy vHang 1Zyyy 1dHani fZyyy cHani
  4Zyyy 1bKana 1Hani 2gKana pHani aZyyy 5Hani 2oZyyy vHani 1Zyyy 534Hani 1sZyyy g74Hani wdYiii 3Zzzz 1jYiii
  9Zzzz 1cLisu 8cVaii kZzzz 1bCyrl 1CyrlGlag 1cCyrl 2gBamu 8Zzzz 8HaniLatn qZyyy 2uLatn 3Zyyy 1sLatn 5Zzzz
  2Latn 1Zzzz 1Latn 1Zzzz 5Latn oZzzz eLatn 19Sylo 3Zzzz
  3DevaDogrGujrGuruKhojKndaKthiMahjMlymModiNandSindTakrTirh
  3DevaDogrGujrGuruKhojKndaKthiMahjModiNandSindTakrTirh 4DevaDogrGujrGuruKhojKthiMahjModiSindTakrTirh 6Zzzz
  1kPhag 8Zzzz 1ySaur 8Zzzz cSaur 6Zzzz hDeva 1BengDeva 1Deva 1DevaTaml cDeva 1aKali 1KaliLatnMymr 1Kali
  10Rjng bZzzz 1Rjng tHang 3Zzzz 26Java 1Zzzz 1BugiJava aJava 4Zzzz 2Java vMymr 1Zzzz 1jCham 9Zzzz eCham 2Zzzz
  aCham 2Zzzz 4Cham wMymr 1vTavt oZzzz 5Tavt nMtei aZzzz 6Ethi 2Zzzz 6Ethi 2Zzzz 6Ethi 9Zzzz 7Ethi 1Zzzz 7Ethi
  1Zzzz 17Latn 1Zyyy 9Latn 1Grek 4Latn 2Zyyy 4Zzzz 28Cher 1aMtei 2Zzzz aMtei 6Zzzz 8mcHang cZzzz nHang 4Zzzz
  1dHang 6isZzzz a6Hani 2Zzzz 2yHani 12Zzzz 7Latn cZzzz 5Armn 5Zzzz qHebr 1Zzzz 5Hebr 1Zzzz 1Hebr 1Zzzz 2Hebr
  1Zzzz 2Hebr 1Zzzz aHebr 37Arab gZzzz a3Arab 2ArabNkoo 28Arab 2Zzzz 1iArab 7Zzzz 1Arab wZzzz 2Arab 1ArabThaa
  aArab 1ArabThaa 2Arab gZinh aZyyy 6Zzzz eZinh 2Cyrl lZyyy 2BopoHangHaniHiraKana cZyyy 1Zzzz jZyyy 1Zzzz
  4Zyyy 4Zzzz 5Arab 1Zzzz 3rArab 2Zzzz 1Zyyy 1Zzzz wZyyy qLatn 6Zyyy qLatn 6Zyyy 5BopoHangHaniHiraKanaYiii
  aKana 1HiraKana 19Kana 2HiraKana vHang 3Zzzz 6Hang 2Zzzz 6Hang 2Zzzz 6Hang 2Zzzz 3Hang 3Zzzz 7Zyyy 1Zzzz
  7Zyyy aZzzz 5Zyyy 2Zzzz cLinb 1Zzzz qLinb 1Zzzz jLinb 1Zzzz 2Linb 1Zzzz fLinb 2Zzzz eLinb yZzzz 3fLinb 5Zzzz
  2CpmnCprtLinb 1CprtLinb 4Zzzz 19CprtLinaLinb 3Zzzz 9CprtLinb 27Grek 1Zzzz dZyyy 3Zzzz 1Grek 1bZzzz 19Zyyy
  1Zinh 3mZzzz tLyci 3Zzzz 1dCari fZzzz sArabCopt 4Zzzz 10Ital 9Zzzz 3Ital rGoth 5Zzzz 17Perm 5Zzzz uUgar
  1Zzzz 1Ugar 10Xpeo 4Zzzz eXpeo 16Zzzz 28Dsrt 1cShaw uOsma 2Zzzz aOsma 6Zzzz 10Osge 4Zzzz 10Osge 4Zzzz 14Elba
  8Zzzz 1gAghb bZzzz 1Aghb bVith 1Zzzz fVith 1Zzzz 7Vith 1Zzzz 2Vith 1Zzzz bVith 1Zzzz fVith 1Zzzz 7Vith 1Zzzz
  2Vith 1vZzzz 8nLina 9Zzzz mLina aZzzz 8Lina oZzzz 6Latn 1Zzzz 16Latn 1Zzzz 9Latn 1xZzzz 6Cprt 2Zzzz 1Cprt
  1Zzzz 18Cprt 1Zzzz 2Cprt 3Zzzz 1Cprt 2Zzzz 1Cprt mArmi 1Zzzz 9Armi wPalm vNbat 8Zzzz 9Nbat 1cZzzz jHatr
  1Zzzz 2Hatr 5Zzzz 5Hatr sPhnx 3Zzzz 1Phnx qLydi 5Zzzz 1Lydi 1sZzzz wMero oMerc 4Zzzz kMerc 2Zzzz 1aMerc
  4Khar 1Zzzz 2Khar 5Zzzz 8Khar 1Zzzz 3Khar 1Zzzz tKhar 2Zzzz 3Khar 4Zzzz aKhar 7Zzzz 9Khar 7Zzzz wSarb wNarb
  wZzzz 13Mani 4Zzzz 7Mani 1ManiOugr 4Mani 9Zzzz 1iAvst 3Zzzz 7Avst mPrti 2Zzzz 8Prti jPhli 5Zzzz 8Phli iPhlp
  7Zzzz 4Phlp cZzzz 7Phlp 28Zzzz 21Orkh 1jZzzz 1fHung dZzzz 1fHung 7Zzzz 6Hung 14Rohg 8Zzzz aRohg 86Zzzz vArab
  1Zzzz 16Yezi 1Zzzz 3Yezi 2Zzzz 2Yezi 23Zzzz 3Arab 14Sogo 8Zzzz 16Sogd mZzzz qOugr 12Zzzz sChrs kZzzz nElym
  9Zzzz 26Brah 4Zzzz 10Brah 9Zzzz 1Brah 1vKthi aZzzz 1Kthi 2Zzzz pSora 7Zzzz aSora 6Zzzz 1hCakm 1Zzzz iCakm
  8Zzzz 13Mahj 9Zzzz 2oShrd 1Zzzz kSinh bZzzz iKhoj 1Zzzz 1bKhoj 1qZzzz 7Mult 1Zzzz 1Mult 1Zzzz 4Mult 1Zzzz
  fMult 1Zzzz bMult 6Zzzz 1nSind 5Zzzz aSind 6Zzzz 1Gran 1GranTaml 1Gran 1GranTaml 1Zzzz 8Gran 2Zzzz 2Gran
  2Zzzz mGran 1Zzzz 7Gran 1Zzzz 2Gran 1Zzzz 5Gran 1Zzzz 2GranTaml 8Gran 2Zzzz 2Gran 2Zzzz 3Gran 2Zzzz 1Gran
  6Zzzz 1Gran 5Zzzz 7Gran 2Zzzz 7Gran 3Zzzz 5Gran 3vZzzz 2kNewa 1Zzzz 5Newa uZzzz 20Tirh 8Zzzz aTirh 4mZzzz
  1iSidd 2Zzzz 12Sidd yZzzz 1xModi bZzzz aModi 6Zzzz dMong jZzzz 1mTakr 6Zzzz aTakr 1iZzzz rAhom 2Zzzz fAhom
  4Zzzz nAhom 55Zzzz 1oDogr 2sZzzz 2bWara cZzzz 1Wara 7Diak 2Zzzz 1Diak 2Zzzz 8Diak 1Zzzz 2Diak 1Zzzz uDiak
  1Zzzz 2Diak 2Zzzz cDiak 9Zzzz aDiak 1yZzzz 8Nand 2Zzzz 1aNand 2Zzzz bNand rZzzz 20Zanb 8Zzzz 2bSoyo dZzzz
  gCans 1lPauc 7Zzzz aDeva 6uZzzz 9Bhks 1Zzzz 19Bhks 1Zzzz eBhks aZzzz tBhks 3Zzzz wMarc 2Zzzz mMarc 1Zzzz
  eMarc 21Zzzz 7Gonm 1Zzzz 2Gonm 1Zzzz 18Gonm 3Zzzz 1Gonm 1Zzzz 2Gonm 1Zzzz 9Gonm 8Zzzz aGonm 6Zzzz 6Gong
  1Zzzz 2Gong 1Zzzz 11Gong 1Zzzz 2Gong 1Zzzz 6Gong 7Zzzz aGong 8mZzzz pMaka 7Zzzz hKawi 1Zzzz 15Kawi 3Zzzz
  sKawi 2eZzzz 1Lisu fZzzz gTaml 2GranTaml 1Taml 1GranTaml uTaml dZzzz 1Taml pmXsux 2uZzzz 33Xsux 1Zzzz 5Xsux
  bZzzz 5gXsux 218Zzzz 2rCpmn dZzzz uuEgyp 33eZzzz g7Hluw 6ntZzzz ftBamu 7Zzzz vMroo 1Zzzz aMroo 4Zzzz 2Mroo
  27Tnsa 1Zzzz aTnsa 6Zzzz uBass 2Zzzz 6Bass aZzzz 1yHmng aZzzz aHmng 1Zzzz 7Hmng 1Zzzz lHmng 5Zzzz jHmng
  j4Zzzz 2jMedf 2tZzzz 23Plrd 4Zzzz 1lPlrd 7Zzzz hPlrd 1sZzzz 1Tang 1Nshu 2Hani 1Kits bZzzz 2Hani eZzzz
  4qgTang 8Zzzz lcTang d2Kits 16Zzzz 9Tang 6w7Zzzz 4Kana 1Zzzz 7Kana 1Zzzz 2Kana 1Zzzz 1Kana 7zHira 3Kana
  fZzzz 1Hira tZzzz 3Hira 2Zzzz 1Kana eZzzz 4Kana 8Zzzz b0Nshu 1s4Zzzz 2zDupl 5Zzzz dDupl 3Zzzz 9Dupl 7Zzzz
  aDupl 2Zzzz 8Dupl 3mkZzzz 1aZinh 2Zzzz nZinh 9Zzzz 38Zyyy 1oZzzz 6uZyyy aZzzz 13Zyyy 2Zzzz 1qZyyy 3Zinh
  hZyyy 8Zinh 2Zyyy 7Zinh uZyyy 4Zinh 1pZyyy lZzzz 1yGrek 3eZzzz kZyyy cZzzz kZyyy cZzzz 2fZyyy 9Zzzz iHani
  7Zyyy 3rZzzz 2dZyyy 1Zzzz 1zZyyy 1Zzzz 2Zyyy 2Zzzz 1Zyyy 2Zzzz 2Zyyy 2Zzzz 4Zyyy 1Zzzz cZyyy 1Zzzz 1Zyyy
  1Zzzz 7Zyyy 1Zzzz 1tZyyy 1Zzzz 4Zyyy 2Zzzz 8Zyyy 1Zzzz 7Zyyy 1Zzzz sZyyy 1Zzzz 4Zyyy 1Zzzz 5Zyyy 1Zzzz 1Zyyy
  3Zzzz 7Zyyy 1Zzzz 9gZyyy 2Zzzz 84Zyyy 2Zzzz 1eZyyy i4Sgnw fZzzz 5Sgnw 1Zzzz fSgnw uoZzzz vLatn 6Zzzz 6Latn
  5xZzzz 7Glag 1Zzzz hGlag 2Zzzz 7Glag 1Zzzz 2Glag 1Zzzz 5Glag 5Zzzz 1qCyrl xZzzz 1Cyrl 34Zzzz 19Hmnp 3Zzzz
  eHmnp 2Zzzz aHmnp 4Zzzz 2Hmnp 8wZzzz vToto hZzzz 1mWcho 5Zzzz 1Wcho cwZzzz 16Nagm kmZzzz 7Ethi 1Zzzz 4Ethi
  1Zzzz 2Ethi 1Zzzz fEthi 1Zzzz 5hMend 2Zzzz gMend 15Zzzz 24Adlm 4Zzzz aAdlm 4Zzzz 2Adlm ltZzzz 1wZyyy 24Zzzz
  1pZyyy 5eZzzz 4Arab 1Zzzz rArab 1Zzzz 2Arab 1Zzzz 1Arab 2Zzzz 1Arab 1Zzzz aArab 1Zzzz 4Arab 1Zzzz 1Arab
  1Zzzz 1Arab 6Zzzz 1Arab 4Zzzz 1Arab 1Zzzz 1Arab 1Zzzz 1Arab 1Zzzz 3Arab 1Zzzz 2Arab 1Zzzz 1Arab 2Zzzz 1Arab
  1Zzzz 1Arab 1Zzzz 1Arab 1Zzzz 1Arab 1Zzzz 1Arab 1Zzzz 2Arab 1Zzzz 1Arab 2Zzzz 4Arab 1Zzzz 7Arab 1Zzzz 4Arab
  1Zzzz 4Arab 1Zzzz 1Arab 1Zzzz aArab 1Zzzz hArab 5Zzzz 3Arab 1Zzzz 5Arab 1Zzzz hArab 1gZzzz 2Arab 7iZzzz
  18Zyyy 4Zzzz 2sZyyy cZzzz fZyyy 2Zzzz fZyyy 1Zzzz fZyyy 1Zzzz 11Zyyy aZzzz 4uZyyy 1kZzzz qZyyy 1Hira 2Zyyy
  dZzzz 18Zyyy 4Zzzz 9Zyyy 7Zzzz 2Hani eZzzz 6Zyyy 4aZzzz rcZyyy 4Zzzz hZyyy 3Zzzz dZyyy 3Zzzz 3bZyyy 4Zzzz
  2nZyyy 6Zzzz cZyyy 4Zzzz 1Zyyy fZzzz cZyyy 4Zzzz 1kZyyy 8Zzzz aZyyy 6Zzzz 14Zyyy 8Zzzz uZyyy 2Zzzz 2Zyyy
  26Zzzz 9gZyyy cZzzz eZyyy 2Zzzz dZyyy 3Zzzz 9Zyyy 7Zzzz 1aZyyy 1Zzzz 7Zyyy 8Zzzz eZyyy 4Zzzz 9Zyyy 7Zzzz
  9Zyyy 7Zzzz 43Zyyy 1Zzzz 1jZyyy 11Zzzz aZyyy smZzzz wyoHani wZzzz 37eHani 6Zzzz 66Hani 2Zzzz 4g2Hani eZzzz
  5rlHani 2e7Zzzz f2Hani 15uZzzz 3t7Hani 5Zzzz 38gHani f975Zzzz 1Zyyy uZzzz 2oZyyy 3kZzzz 6oZinh 47bkZzzz"

def table : Partition := Partition.decode runs

/-- The scripts that use a code point, four letters each. -/
def extensions : Partition := Partition.decode extensionRuns

/-- The names of a script, in lower case and without separators. -/
def names : List (String × List String) := Partition.decodeNames "
  Adlm:adlam,adlm Aghb:aghb,caucasianalbanian Ahom:ahom Arab:arab,arabic Armi:armi,imperialaramaic
  Armn:armenian,armn Avst:avestan,avst Bali:bali,balinese Bamu:bamu,bamum Bass:bass,bassavah Batk:batak,batk
  Beng:beng,bengali Bhks:bhaiksuki,bhks Bopo:bopo,bopomofo Brah:brah,brahmi Brai:brai,braille
  Bugi:bugi,buginese Buhd:buhd,buhid Cakm:cakm,chakma Cans:canadianaboriginal,cans Cari:cari,carian Cham:cham
  Cher:cher,cherokee Chrs:chorasmian,chrs Copt:copt,coptic,qaac Cpmn:cpmn,cyprominoan Cprt:cprt,cypriot
  Cyrl:cyrillic,cyrl Deva:deva,devanagari Diak:diak,divesakuru Dogr:dogr,dogra Dsrt:deseret,dsrt
  Dupl:dupl,duployan Egyp:egyp,egyptianhieroglyphs Elba:elba,elbasan Elym:elym,elymaic Ethi:ethi,ethiopic
  Geor:geor,georgian Glag:glag,glagolitic Gong:gong,gunjalagondi Gonm:gonm,masaramgondi Goth:goth,gothic
  Gran:gran,grantha Grek:greek,grek Gujr:gujarati,gujr Guru:gurmukhi,guru Hang:hang,hangul Hani:han,hani
  Hano:hano,hanunoo Hatr:hatr,hatran Hebr:hebr,hebrew Hira:hira,hiragana Hluw:anatolianhieroglyphs,hluw
  Hmng:hmng,pahawhhmong Hmnp:hmnp,nyiakengpuachuehmong Hung:hung,oldhungarian Ital:ital,olditalic
  Java:java,javanese Kali:kali,kayahli Kana:kana,katakana Kawi:kawi Khar:khar,kharoshthi Khmr:khmer,khmr
  Khoj:khoj,khojki Kits:khitansmallscript,kits Knda:kannada,knda Kthi:kaithi,kthi Lana:lana,taitham
  Laoo:lao,laoo Latn:latin,latn Lepc:lepc,lepcha Limb:limb,limbu Lina:lina,lineara Linb:linb,linearb Lisu:lisu
  Lyci:lyci,lycian Lydi:lydi,lydian Mahj:mahajani,mahj Maka:maka,makasar Mand:mand,mandaic
  Mani:mani,manichaean Marc:marc,marchen Medf:medefaidrin,medf Mend:mend,mendekikakui
  Merc:merc,meroiticcursive Mero:mero,meroitichieroglyphs Mlym:malayalam,mlym Modi:modi Mong:mong,mongolian
  Mroo:mro,mroo Mtei:meeteimayek,mtei Mult:mult,multani Mymr:myanmar,mymr Nagm:nagm,nagmundari
  Nand:nand,nandinagari Narb:narb,oldnortharabian Nbat:nabataean,nbat Newa:newa Nkoo:nko,nkoo Nshu:nshu,nushu
  Ogam:ogam,ogham Olck:olchiki,olck Orkh:oldturkic,orkh Orya:oriya,orya Osge:osage,osge Osma:osma,osmanya
  Ougr:olduyghur,ougr Palm:palm,palmyrene Pauc:pauc,paucinhau Perm:oldpermic,perm Phag:phag,phagspa
  Phli:inscriptionalpahlavi,phli Phlp:phlp,psalterpahlavi Phnx:phnx,phoenician Plrd:miao,plrd
  Prti:inscriptionalparthian,prti Rjng:rejang,rjng Rohg:hanifirohingya,rohg Runr:runic,runr
  Samr:samaritan,samr Sarb:oldsoutharabian,sarb Saur:saur,saurashtra Sgnw:sgnw,signwriting Shaw:shavian,shaw
  Shrd:sharada,shrd Sidd:sidd,siddham Sind:khudawadi,sind Sinh:sinh,sinhala Sogd:sogd,sogdian
  Sogo:oldsogdian,sogo Sora:sora,sorasompeng Soyo:soyo,soyombo Sund:sund,sundanese Sylo:sylo,sylotinagri
  Syrc:syrc,syriac Tagb:tagb,tagbanwa Takr:takr,takri Tale:taile,tale Talu:newtailue,talu Taml:tamil,taml
  Tang:tang,tangut Tavt:taiviet,tavt Telu:telu,telugu Tfng:tfng,tifinagh Tglg:tagalog,tglg Thaa:thaa,thaana
  Thai:thai Tibt:tibetan,tibt Tirh:tirh,tirhuta Tnsa:tangsa,tnsa Toto:toto Ugar:ugar,ugaritic Vaii:vai,vaii
  Vith:vith,vithkuqi Wara:wara,warangciti Wcho:wancho,wcho Xpeo:oldpersian,xpeo Xsux:cuneiform,xsux
  Yezi:yezi,yezidi Yiii:yi,yiii Zanb:zanabazarsquare,zanb Zinh:inherited,qaai,zinh Zyyy:common,zyyy"

/-- The four letters of a script, from any of its names. -/
def code? (name : String) : Option String := (names.find? (·.2.contains name)).map (·.1)

def find? (name : String) : Option CharSet := (code? name).map (fun c => table.select (· = c))

def inCodes (code : List Char) : List Char → Bool
  | a :: b :: c :: d :: rest => [a, b, c, d] = code || inCodes code rest
  | _ => false

/-- The characters that a script uses. -/
def findExtended? (name : String) : Option CharSet :=
  (code? name).map (fun c => extensions.select (fun codes => inCodes c.toList codes.toList))

end Script
end ProductQuery
