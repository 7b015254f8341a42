/-!
# Names of characters from C to D

The names are in order, without blanks and without hyphens inside words, and cut into lines of one length.
Each name starts with how many characters it shares with the one before it, from `a` for none to `z` for 25; a
plus sign adds 26.
-/

namespace PythonAudit

namespace Text

namespace CharacterName

/-- The names that start with C. -/
def namesC : List String :=
  ["aCACTUScDAUNAdUCEUScLENDARdLMEHANDcMERAgWITHFLASHdPINGcNdADIANSYLLABICSAsAtItYsItVILIKBsNsTHAPASCANM+bSsYrBEAV",
    "ERDENEL+bRsIBLECREEYsLACKFOOTA+aE+aI+aKA+bE+bI+bO+aNA+bE+bI+bO+aO+aS+aW+bA+bE+bI+bOrCsAtAuItRRIERCHA+aE+bE+aI+",
    "aO+aUyDEE+aNEGEE+bTALSzIzLA+aE+bE+aI+aO+aUzZA+aE+bE+aI+aO+aUyEEyGA+aAzE+aEzHA+aE+bE+aI+aO+aUzIzOzUzWA+aUyHzEEz",
    "IzWA+aE+bE+aI+aO+aUyIzNITIALZyJAzE+aEzIzJA+aE+bE+aI+aO+aUzOzUzWAyKHA+aE+bE+aI+aO+aUzK+aA+aE+bE+aI+aO+aUyLAzE+a",
    "EzHA+aE+bE+aI+aO+aUzIzOzUyMAzE+aEzIzOzUyNAzE+aEzGzIzOzUyPzAzE+aEzIzOzUyRAzE+aEzIzOzUySAzE+aEzH+aA+aE+bE+aI+aO+",
    "aUzIzOzUyTHA+aE+bE+aI+aO+aUzLA+aE+bE+aHA+bE+cE+bI+bO+bU+aI+aO+aUzSA+aE+bE+aI+aO+aUzTA+aE+bE+aI+aO+aSA+bE+cE+bI",
    "+bO+bU+aUyWAzE+aEzIzOzUyYAzE+aEzIzOzUyZzAzE+aEzIzOzUsEsHISIGNsItIsOtOsWAuAtEtIuItOuOrEsASTERNWsNrFsAtAuIsEsItI",
    "tNALACUTEwBOTTOMHALFRINGwDOUBLEACUTE+cSHORTVERTICALSTROKESyWNTACKwGRAVEwMIDDLEDOTwPLUSwRAISEDDOTxIGHTHALFRINGy",
    "NGwSHORTHORIZONTALSTROKExMALLRINGwTOPHALFRINGsOtOsULLSTOPsWAArGLOTTALSTOPrHKsYPHENrIsIsNrKsAtAuItYsEsItIsOtOsW",
    "tAuAuYtEtIuItOuOrLsAtAuItYsEsHtAuAtIuItOuOsItIsOtOsWAuAtEtIuItOuOrMsAtAuItYsEtDIALLxRsHsItIsOtOuSECREESKsWAuAt",
    "EtIuItOuOrNsAtAuItSKAPICWAAyKWAAyMWAAyNWAAySCWAzKW+bAzPWAzTWAzW+aAAyTWAAyWAAzOOyYWAAtTTILIKHA+bA+aI+bI+aO+bOzS",
    "HRA+dA+cI+dI+cO+dOtYsCREETHEyIzIsEsGtAuAvIuItIuItOuOsHsItIsNGuAvAuIvIuOvOsOtOtYsUNAVIKHzA+aAzEzI+aIzO+aOwUTHsW",
    "AuAtEtIuItOuOrOsJIBWAYCyKyMyNzWI+bI+aO+bOyPySzHyTsNsOsYrPsAtAuItYsEsItIsOtOtYsWAuAtEtIuItOuOuYrQsAtAuItIsItIsO",
    "tOrRsAtAuItYsCREERExWEsEsItIsOtOsWAuAtEEtIuItOuOrSsAtAuItYuISIHAyEyIyOzOxJIyUzUxMxSHAzEzIzO+aOzWExTHxYIsEsHtAu",
    "AuYtEtIuItOuOuYtWAvAuEuIvIuOvOvYsItIsOtOtUTHSLAVEYKAH+dEH+dIH+dOHtYsPAtEtItOsWtAuAtEtIuItOuOrTsAtAuItYsEsHtAuA",
    "tCREETHzA+aAzEzI+aIzO+aOtEtIuItOuOtWAvAuEsItIsLHAuEuIuOvOuWEsOtOsTAtEtHuAvAuEuIuOvOuWEtItOsWAuAtEtIuItOuOsYAtE",
    "tItOrWAtAtYsEtSTCREECWA+cA+bE+bI+cI+bO+cOzFWAAzKWA+cA+bE+bI+cI+bO+cOzL+aA+bA+aE+aO+bO+aWA+cA+bE+bI+cI+bO+cOzM+",
    "aWA+cA+bE+bI+cI+bO+cOzNWA+cA+bEzP+aWA+cA+bE+bI+cI+bO+cOzR+aA+aE+aI+aO+aWAAzSHWA+dA+cE+cI+dI+cO+dO+aWA+cA+bE+bI",
    "+cI+bO+cOzTHWAA+aWA+cA+bE+bI+cI+bO+cOzWA+bA+aE+aI+bI+aO+bOzY+aWA+cA+bE+bI+cI+bO+cOvERNWsItIsOtOuDSCREEFINALTH+",
    "aTH+cA+cE+cI+cO+cWA+eA+dEE+dI+eI+dO+eOrYsAtAuItYsCREECOOwKOOwLOOwMOOwNOOwOOwPOOxWAAwSOOwTOOwWwYOOsEsItIsOtOtYs",
    "WAuAtEtIuItOuOdCELgCHARACTERgLATIONXgTAGfRdDLEeYdNEDFOODdOEcPITULUMdRICORNcRDFILEBOXeINDEXjDIVIDERSdEOFeTfINSE",
    "RTIONPOINTdIANLETTERAn2mBmC18n39mDn2mEn2mGn2mInImKn2mLnDo2mMnBo2o3o4mNnDnGnNmOmPn2mQmRnRmSnHo2nSnTo2mTnTo2mUnU",
    "oUp2p3pUmXdONeUSELHORSEdPENTRYSAWeSTREAMERdRIAGERETURNeOTdSLIDINGcSTLEcTdFACEhWITHTEARSOFJOYlWRYSMILEcUCASIANA",
    "LBANIANCITATIONMARKrLETTERALTyORxBETxCARzYNyHA+aTzIzOYyYAW+aYxDATyYANyZAYzYAYxEByYNxFAMxGHEYSyIMxHEYTxINYAyRBy",
    "WNxJAYNyHOXxKARyIWxLANyYITxMAQxNOWCxONxPENyIWRxQARzYxRATxSEYKyHA+aKzOYxTASyIWRyYAYxVEYZxXEYNxYAYDyOWDxZARLyHAz",
    "ILdTIONSIGNbCHbEDILLAeSIGNcLTICCROSScNTRELINELOWLINEkOVERLINEkSYMBOLeSIGNcRESbGJbHAINSeRdKMAAUMARKgDANDAhIGITE",
    "IGHTlFIVEmOURlNINElONElSEVENmIXlTHREEmWOlZEROhOUBLEDANDAgLETTERAAmBAAnHAAmCAAnHAAmDAAnDAAoHAAnHAAmEmGAAnHAAmHA",
    "AmImJAAnHAAmKAAnHAAmLAAnHAAmMAAmNAAnGAAnNAAnYAAmPAAnHAAmRAAmSAAmTAAnHAAnTAAoHAAmUmVAAmWAAmYAAnYAAgMAAYYAAgOMAR",
    "KgQUESTIONMARKgSECTIONMARKhIGNANUSVARAkCANDRABINDUkVISARGAgVIRAMAhOWELSIGNAqAqIqUpEqIpIqIpOqIpUqUdMCONSONANTSI",
    "GNFINALHwMwNGrLArRArWArYAeDIGITEIGHTjFIVEkOURjNINEjONEjSEVENkIXjTHREEkWOjZEROeLETTERAlIkBAlBAlHAkCHAmHAkDAlDAl",
    "HAkEkFINALCHpGpKpLpNqGpPpRpSSpTpYkGAlHAkHAkIkJAlHAkKAlHAkLAkMAlUEkNAlGAmUElHAmJAmUElUEkOkPAlHAlPAkRAkSAlSAkTAl",
    "HAkUkVAkYAePUNCTUATIONDANDAqOUBLEDANDApSPIRALpTRIPLEDANDAeVOWELSIGNAAoIoUnEInIoInOoEnUoEdRACTERTABULATIONtSETt",
    "WITHJUSTIFICATIONkIEeTWITHDOWNWARDSTRENDjUPWARDSTRENDvANDYENSIGNcECKERBOARDmFILLfMARKdERINGMEGAPHONEeSEWEDGEdQ",
    "UEREDFLAGdROKEELETTERAoDApEpIpLApOpUpVoEoGApEpIpOpUpVoHApEpIpNApOpUpVoIoKAoLApEpIpOpUpVoMApEpIpOpUpVoNAqHpEpIp",
    "OpUpVoOoQUAqEqIqOqUqVoSpApEpIpOpUpVoTApEpIpLAqEqIqOqUqVpSAqEqIqOqUqVoUoVoWApEpIpOpUpVoYApEpIpOpUpViSMALLLETTER",
    "AtDAuEuIuLAuOuUuVtEtGAuEuIuOuUuVtHAuEuIuNAuOuUuVtItKAtLAuEuIuOuUuVtMAuEuIuOuUuVtNAvHuEuIuOuUuVtOtQUAvEvIvOvUvV",
    "tSuAuEuIuOuUuVtTAuEuIuLAvEvIvOvUvVuSAvEvIvOvUvVtUtVtWAuEuIuOuUuVtYAuEuIuOuUuVeRIESfYBLOSSOMdSTNUTcICKENdLDfREN",
    "CROSSINGdPMUNKdRHOeONcOCOLATEBARdPSTICKSdRASMIANLETTERALEPHrYINqBETHqCURLEDWAWqDALETHqGIMELqHEsTHqKAPHqLAMEDHq",
    "MEMqNUNqPEqRESHqSAMEKHrHINrMALLALEPHqTAWqWAWqYODHqZAYINkNUMBERFOURqONEtHUNDREDqTENrHREErWENTYsOcRISTMASTREEcUR",
    "CHbINEMAcRCLEDANTICLOCKWISEARROWuROTATEDDIVISIONSIGNiSTERISKOPERATORhBOLDXiULLEThCCiDiROSSFORMEEsWITHFOURDOTSw",
    "TWODOTSmINGLANESmPOMMEEiWITHOVERLAIDBACKSLASHhDASHiIGITEIGHTmFIVEnOURmNINEmONEmSEVENnIXmTHREEnWOmZEROjVISIONSI",
    "GNqLASHiOLLARSIGNWITHOVERLAIDBACKSLASHjTOPERATORhEQUALShGREATERTHANhHANGULCHIEUCHuAoIEUCsAnHIEUHsAnIEUNGsAsUnK",
    "HIEUKHuAoIYEOKtAnMIEUMsAnNIEUNsAnPHIEUPHuAoIEUPsAnRIEULsAnSIOSrAnTHIEUTHuAoIKEUTtAiEAVYWHITERIGHTWARDSARROWiOR",
    "IZONTALBARWITHNOTCHiUMANFIGUREhIDEOGRAPHACCEPTrDVANTAGErLLIANCErTTENTIONqCENTRErONGRATULATIONsPYsRRECTqEARTHrI",
    "GHTrNTERPRISErXCELLENTqFEMALErINANCIALsREsVErOURqHAVErIGHqITEMqKINDERGARTENrOTOqLABORrEFTrOWqMALErEDICINEsTALr",
    "OONqNAMErIGHTsNEqONEqPRINTqQUESTIONqRELIGIONsSOURCEtTrIGHTqSCHOOLrECRETsVENrIXrOCIETYrPECIALrTOCKsUDYrUITABLEs",
    "NsPERVISEqTENrHREErWOqWATERrOODiNFORMATIONSOURCEiTALICLATINCAPITALLETTERC+fRiVIDEDBYHORIZONTALBARANDTOPHALFDIV",
    "IDEDBYVERTICALBARhKATAKANAApEpHAqEqIqOqUpIpKAqEqIqOqUpMAqEqIqOqUpNAqEqIqOqUpOpRAqEqIqOqUpSAqEqIqOqUpTAqEqIqOqU",
    "pUpWAqEqIqOpYAqOqUiOREANCHARACTERCHAMKOwJUEUIhLATINCAPITALLETTERAzBzCzDzEzFzGzHzIzJzKzLzMzNzOzPzQzRzSzTzUzVzWz",
    "XzYzZmSMALLLETTERAxBxCxDxExFxGxHxIxJxKxLxMxNxOxPxQxRxSxTxUxVxWxXxYxZiESSTHANhMINUSiULTIPLICATIONSIGNWITHCIRCUM",
    "FLEXACCENThNUMBEREIGHTEENsYONBLACKSQUAREoLEVENnFIFTEENrYsONBLACKSQUAREoORTYsEIGHTsFIVEtOURsNINEsONBLACKSQUAREu",
    "EsSEVENtIXsTHREEtWOpURTEENnNINETEENnSEVENTEENtYONBLACKSQUAREoIXTEENrYONBLACKSQUAREnTENqONBLACKSQUAREoHIRTEENsY",
    "tEIGHTtFIVEuOURtNINEtONBLACKSQUAREvEtSEVENuIXtTHREEuWOoWELVEqNTYtEIGHTtFIVEuOURtNINEtONBLACKSQUAREvEtSEVENuIXt",
    "THREEuWOhOPENCENTREEIGHTPOINTEDSTARhPARALLELiERPENDICULARiLUSiOSTALMARKhREVERSESOLIDUSiINGOPERATORhSQUAREhTIME",
    "SiRIANGLEpDOWNhVERTICALBARhWHITEBULLETmSTARiZhXhZEROWITHSLASHgWITHALLBUTUPPERLEFTQUADRANTBLACKkHORIZONTALBARkL",
    "EFTHALFBLACKlOWERHALFBLACKkRIGHTHALFBLACKkSMALLCIRCLETOTHERIGHTlUPERIMPOSEDXkTWOHORIZONTALSTROKESTOTHERIGHTkUP",
    "PERHALFBLACKpRIGHTQUADRANTBLACKkVERTICALFILLeULATIONFUNCTIONfMFLEXACCENTfSTENTcTYSCAPEjATDUSKbJKCOMPATIBILITYI",
    "DEOGRAPH2F800+d1+d2+d3+d4+d5+d6+d7+d8+d9+dA+dB+dC+dD+dE+dF+c10+d1+d2+d3+d4+d5+d6+d7+d8+d9+dA+dB+dC+dD+dE+dF+c2",
    "0+d1+d2+d3+d4+d5+d6+d7+d8+d9+dA+dB+dC+dD+dE+dF+c30+d1+d2+d3+d4+d5+d6+d7+d8+d9+dA+dB+dC+dD+dE+dF+c40+d1+d2+d3+d",
    "4+d5+d6+d7+d8+d9+dA+dB+dC+dD+dE+dF+c50+d1+d2+d3+d4+d5+d6+d7+d8+d9+dA+dB+dC+dD+dE+dF+c60+d1+d2+d3+d4+d5+d6+d7+d",
    "8+d9+dA+dB+dC+dD+dE+dF+c70+d1+d2+d3+d4+d5+d6+d7+d8+d9+dA+dB+dC+dD+dE+dF+c80+d1+d2+d3+d4+d5+d6+d7+d8+d9+dA+dB+d",
    "C+dD+dE+dF+c90+d1+d2+d3+d4+d5+d6+d7+d8+d9+dA+dB+dC+dD+dE+dF+cA0+d1+d2+d3+d4+d5+d6+d7+d8+d9+dA+dB+dC+dD+dE+dF+c",
    "B0+d1+d2+d3+d4+d5+d6+d7+d8+d9+dA+dB+dC+dD+dE+dF+cC0+d1+d2+d3+d4+d5+d6+d7+d8+d9+dA+dB+dC+dD+dE+dF+cD0+d1+d2+d3+",
    "d4+d5+d6+d7+d8+d9+dA+dB+dC+dD+dE+dF+cE0+d1+d2+d3+d4+d5+d6+d7+d8+d9+dA+dB+dC+dD+dE+dF+cF0+d1+d2+d3+d4+d5+d6+d7+",
    "d8+d9+dA+dB+dC+dD+dE+dF+b900+d1+d2+d3+d4+d5+d6+d7+d8+d9+dA+dB+dC+dD+dE+dF+c10+d1+d2+d3+d4+d5+d6+d7+d8+d9+dA+dB",
    "+dC+dD+dE+dF+c20+d1+d2+d3+d4+d5+d6+d7+d8+d9+dA+dB+dC+dD+dE+dF+c30+d1+d2+d3+d4+d5+d6+d7+d8+d9+dA+dB+dC+dD+dE+dF",
    "+c40+d1+d2+d3+d4+d5+d6+d7+d8+d9+dA+dB+dC+dD+dE+dF+c50+d1+d2+d3+d4+d5+d6+d7+d8+d9+dA+dB+dC+dD+dE+dF+c60+d1+d2+d",
    "3+d4+d5+d6+d7+d8+d9+dA+dB+dC+dD+dE+dF+c70+d1+d2+d3+d4+d5+d6+d7+d8+d9+dA+dB+dC+dD+dE+dF+c80+d1+d2+d3+d4+d5+d6+d",
    "7+d8+d9+dA+dB+dC+dD+dE+dF+c90+d1+d2+d3+d4+d5+d6+d7+d8+d9+dA+dB+dC+dD+dE+dF+cA0+d1+d2+d3+d4+d5+d6+d7+d8+d9+dA+d",
    "B+dC+dD+dE+dF+cB0+d1+d2+d3+d4+d5+d6+d7+d8+d9+dA+dB+dC+dD+dE+dF+cC0+d1+d2+d3+d4+d5+d6+d7+d8+d9+dA+dB+dC+dD+dE+d",
    "F+cD0+d1+d2+d3+d4+d5+d6+d7+d8+d9+dA+dB+dC+dD+dE+dF+cE0+d1+d2+d3+d4+d5+d6+d7+d8+d9+dA+dB+dC+dD+dE+dF+cF0+d1+d2+",
    "d3+d4+d5+d6+d7+d8+d9+dA+dB+dC+dD+dE+dF+bA00+d1+d2+d3+d4+d5+d6+d7+d8+d9+dA+dB+dC+dD+dE+dF+c10+d1+d2+d3+d4+d5+d6",
    "+d7+d8+d9+dA+dB+dC+dDzF900+c1+c2+c3+c4+c5+c6+c7+c8+c9+cA+cB+cC+cD+cE+cF+b10+c1+c2+c3+c4+c5+c6+c7+c8+c9+cA+cB+c",
    "C+cD+cE+cF+b20+c1+c2+c3+c4+c5+c6+c7+c8+c9+cA+cB+cC+cD+cE+cF+b30+c1+c2+c3+c4+c5+c6+c7+c8+c9+cA+cB+cC+cD+cE+cF+b",
    "40+c1+c2+c3+c4+c5+c6+c7+c8+c9+cA+cB+cC+cD+cE+cF+b50+c1+c2+c3+c4+c5+c6+c7+c8+c9+cA+cB+cC+cD+cE+cF+b60+c1+c2+c3+",
    "c4+c5+c6+c7+c8+c9+cA+cB+cC+cD+cE+cF+b70+c1+c2+c3+c4+c5+c6+c7+c8+c9+cA+cB+cC+cD+cE+cF+b80+c1+c2+c3+c4+c5+c6+c7+",
    "c8+c9+cA+cB+cC+cD+cE+cF+b90+c1+c2+c3+c4+c5+c6+c7+c8+c9+cA+cB+cC+cD+cE+cF+bA0+c1+c2+c3+c4+c5+c6+c7+c8+c9+cA+cB+",
    "cC+cD+cE+cF+bB0+c1+c2+c3+c4+c5+c6+c7+c8+c9+cA+cB+cC+cD+cE+cF+bC0+c1+c2+c3+c4+c5+c6+c7+c8+c9+cA+cB+cC+cD+cE+cF+",
    "bD0+c1+c2+c3+c4+c5+c6+c7+c8+c9+cA+cB+cC+cD+cE+cF+bE0+c1+c2+c3+c4+c5+c6+c7+c8+c9+cA+cB+cC+cD+cE+cF+bF0+c1+c2+c3",
    "+c4+c5+c6+c7+c8+c9+cA+cB+cC+cD+cE+cF+aA00+c1+c2+c3+c4+c5+c6+c7+c8+c9+cA+cB+cC+cD+cE+cF+b10+c1+c2+c3+c4+c5+c6+c",
    "7+c8+c9+cA+cB+cC+cD+cE+cF+b20+c1+c2+c3+c4+c5+c6+c7+c8+c9+cA+cB+cC+cD+cE+cF+b30+c1+c2+c3+c4+c5+c6+c7+c8+c9+cA+c",
    "B+cC+cD+cE+cF+b40+c1+c2+c3+c4+c5+c6+c7+c8+c9+cA+cB+cC+cD+cE+cF+b50+c1+c2+c3+c4+c5+c6+c7+c8+c9+cA+cB+cC+cD+cE+c",
    "F+b60+c1+c2+c3+c4+c5+c6+c7+c8+c9+cA+cB+cC+cD+b70+c1+c2+c3+c4+c5+c6+c7+c8+c9+cA+cB+cC+cD+cE+cF+b80+c1+c2+c3+c4+",
    "c5+c6+c7+c8+c9+cA+cB+cC+cD+cE+cF+b90+c1+c2+c3+c4+c5+c6+c7+c8+c9+cA+cB+cC+cD+cE+cF+bA0+c1+c2+c3+c4+c5+c6+c7+c8+",
    "c9+cA+cB+cC+cD+cE+cF+bB0+c1+c2+c3+c4+c5+c6+c7+c8+c9+cA+cB+cC+cD+cE+cF+bC0+c1+c2+c3+c4+c5+c6+c7+c8+c9+cA+cB+cC+",
    "cD+cE+cF+bD0+c1+c2+c3+c4+c5+c6+c7+c8+c9dRADICALBAMBOOlLUElOLTOFCLOTHmNEmXlRUSHONEpTWOkCHOKElITYmVILIANlLIFFmOT",
    "HESlOWlSIMPLIFIEDBIRDvCARTvDRAGONvEATwVENvFISHwLYwROGvGATEwOLDvHORSEvLEAFwONGvSALTwEEwHELLwILKwPEECHvTANNEDLEA",
    "THERwOOTHwURTLEvWINDkDEATHlIVINATIONlOGkEATONEnTHREEoWOlWElYEkFIRElOOTkGHOSTlRASSONEpTHREEqWOkHANDlEADnRTONEpT",
    "WOlORNkJADElSIMPLIFIEDDRAGONvEVENvTOOTHwURTLEkKNIFEONEpTWOkLAMEFOURoONEoTHREEpWOlONGONEoTWOkMEATmSHlOONmRTARmT",
    "HERmUNDONEpTWOkNETFOURnONEnTHREEoWOkOLDkPAWONEnTWOlERSONkRAINmMmPlEPEATkSEALmCONDONEqTHREErWOlHEEPlILKmMPLIFIE",
    "DHALFTREETRUNKvORNuWALKvHEATuYELLOWlMALLONEpTWOlNAKEmOUTONEpTWOlPIRITONEqTWOlUNkTABLElHREADlIGERlURTLEkWALKONE",
    "oTWOmTERONEpTWOlESTONEoTWOdSTROKEBXGjDjHkGkPlWGkXWGkZlGlTlWmGlZmPmZnGjNjPkDkGkZjQjSkGkPkTkWlGlZkZlWGlZjTkNjWGj",
    "XGbLAMSHELLMOBILEPHONEdPPERBOARDfINGHANDSSIGNdSSICALBUILDINGcEARSCREENSYMBOLcINKINGBEERMUGSiGLASSESdPBOARDcOCK",
    "FACEEIGHTOCLOCKoTHIRTYkLEVENOCLOCKpTHIRTYjFIVEOCLOCKnTHIRTYkOUROCLOCKnTHIRTYjNINEOCLOCKnTHIRTYjONEOCLOCKmTHIRT",
    "YjSEVENOCLOCKoTHIRTYkIXOCLOCKmTHIRTYjTENOCLOCKmTHIRTYkHREEOCLOCKoTHIRTYkWELVEOCLOCKpTHIRTYlOOCLOCKmTHIRTYfWISE",
    "CLOSEDCIRCLEARROWkONTOURINTEGRALjDOWNWARDSANDUPWARDSOPENCIRCLEARROWSjGAPPEDCIRCLEARROWjINTEGRALjOPENCIRCLEARRO",
    "WjRIGHTANDLEFTSEMICIRCLEARROWSoWARDSANDLEFTWARDSOPENCIRCLEARROWS+vWITHCIRCLEDONEOVERLAYjTOPSEMICIRCLEARROWkRIA",
    "NGLEHEADEDOPENCIRCLEARROWdSEDBOOKgINTERSECTIONWITHSERIFSgLOCKWITHKEYgMAILBOXWITHLOWEREDFLAGrRAISEDFLAGgSUBSETm",
    "OREQUALTOiPERSEToOREQUALTOgUMBRELLAhNIONWITHSERIFSvANDSMASHPRODUCTfUPdUDfWITHLIGHTNINGjRAINjSNOWjTORNADOdWNFAC",
    "EbOATcCKROACHeTAILGLASSdONUTcFFINcINcLLISIONSYMBOLdONfEQUALSfSIGNcMBININGACUTEACCENTuBELOWoGRAVEACUTEoMACRONoT",
    "ONEMARKkLMOSTEQUALTOABOVEwBELOWkNNUITYSYMBOLlTICLOCKWISEARROWABOVEwRINGOVERLAYkSTERISKABOVErBELOWjBINDUBELOWkR",
    "EVEoBELOWoMACRONlIDGEABOVEpBELOWjCANDRABINDUlRONoBELOWkEDILLAkIRCUMFLEXACCENTzBELOWkLOCKWISEARROWABOVEsRINGOVE",
    "RLAYkOMMAABOVEtRIGHToBELOWlNJOININGMACRONzBELOWkYRILLICDASIAPNEUMATArHUNDREDMILLIONSSIGNyTHOUSANDSSIGNrKAVYKAr",
    "LETTERAxBEyIGYUSxCHExDEyJERVxEFyLyMyNyRySzTExFITAxGHExHAzRDSIGNxIyEyOTIFIEDA+fBIGYUS+fExKAxLITTLEYUSxMONOGRAPH",
    "UKxOyMEGAxPExSHAzCHAyOFTSIGNxTEySExUyKRAINIANIExVExYATyERUyIyUxZEyHErMILLIONSSIGNrPALATALIZATIONtYEROKsOKRYTIE",
    "sSILIPNEUMATArSMALLLETTERBYELORUSSIANUKRAINIANIrTENMILLIONSSIGNsHOUSANDMILLIONSSIGNsITLOwLEFTHALFwRIGHTHALFrVZ",
    "METjDELETIONMARKlVANAGARIDIGITEIGHTyFIVEzOURyNINEyONEySEVENzIXyTHREEzWOyZEROtLETTERAzKAzNAzPAzRAzUzVItSIGNAVAG",
    "RAHAkIAERESISsBELOWsRINGkOTABOVErLEFTrRIGHTmBELOWrLEFTmTEDACUTEACCENTpGRAVEACCENTlUBLEACUTEACCENTpBREVEuBELOWp",
    "CIRCUMFLEXABOVEpDCIRCUMFLEXACCENTpGRAVEACCENTpINVERTEDBREVE+cBELOWpLOWLINEpMACRONvBELOWpOPENMARKBELOWqVERLINEp",
    "PARENTHESESABOVEqLUSSIGNABOVExBELOWpRIGHTWARDSARROWBELOWrNGBELOWpTILDEuLEFTHALFuRIGHTHALFpVERTICALLINEABOVE+bB",
    "ELOWxSTROKEOVERLAYlWNTACKBELOWnWARDSARROWjENCLOSINGCIRCLEyBACKSLASHsDIAMONDsKEYCAPsSCREENtQUAREsUPWARDPOINTING",
    "TRIANGLEkQUALSSIGNBELOWjFERMATAkOURDOTSABOVEjGLAGOLITICLETTERAZUzBIGYUS+aUKYzCHRIVIzDJERVI+aOBROzFITA+aRITUzGL",
    "AGOLIzHERUzI+aNITIALIZHE+aOTATEDBIGYUS+gSMALLYUS+aZHEzKAKOzLJUDIJEzMYSLITEzNASHIzONUzPOKOJIzRITSIzSHA+bTA+aLOV",
    "O+aMALLYUSzTSI+aVRIDOzUKUzVEDEzYATI+aERI+cU+bSTU+aO+aUzZEMLJA+aHIVETEkRANTHADIGITFIVEwOURvONEvSIXvTHREEwWOvZER",
    "OqLETTERAwKAwNAwPAwVImPHEMEJOINERmVEACCENTuBELOWqUTEGRAVEoMACRONoTONEMARKlEEKDIALYTIKATONOSoKORONISoMUSICALPEN",
    "TASEMEvTETRASEMEwRISEMEoPERISPOMENIoYPOGEGRAMMENIjHOMOTHETICABOVElOKABOVElRNjINFINITYlVERTEDBREVEwBELOWtIDGEBE",
    "LOWrDOUBLEARCHABOVE+bBELOWkSBELOWjKATAKANAHIRAGANASEMIVOICEDSOUNDMARKzVOICEDSOUNDMARKlVYKAABOVELEFTuRIGHTjLATI",
    "NLETTERSMALLCAPITALG+gL+gM+gN+gRoSMALLLETTERA+aE+aLPHA+aO+aV+aWITHDIAERESISzB+aETAzC+aCEDILLAzDzE+aSH+aTHzF+aL",
    "ATTENEDOPENAABOVEzGzHzI+aNSULARD+gG+gR+gTzKzL+aONGS+aWITHDOUBLEMIDDLETILDEzMzNzO+aWITHDIAERESIS+eLIGHTCENTRALI",
    "ZATIONSTROKEzPzR+aBELOW+aROTUNDAzS+aCHWAzT+aURNEDWBELOWzU+aWITHDIAERESIS+eLIGHTCENTRALIZATIONSTROKEzVzW+aBELOW",
    "zXzZkEFTANGLEABOVEsBELOWoRROWABOVEsBELOWsHEADABOVEwBELOWnHALFRINGABOVEvBELOWpRPOONABOVEnPARENTHESISABOVELEFTyB",
    "ELOWLEFTnRIGHTARROWABOVExBELOWnTACKBELOWnWARDSARROWOVERLAYsHARPOONWITHBARBDOWNWARDSkIGATURELEFTHALFzBELOWrRIGH",
    "THALF+aBELOWmHTCENTRALIZATIONSTROKEBELOWkONGDOUBLESOLIDUSOVERLAYnSOLIDUSOVERLAYoTROKEOVERLAYnVERTICALLINEOVERL",
    "AYlWLINEjMACRONpACUTEpBELOWqREVEpGRAVEpLEFTHALFxBELOWpRIGHTHALFyBELOWkINUSSIGNBELOWjNOTTILDEABOVEkUMBERSIGNABO",
    "VEjOGONEKpABOVEkLDPERMICLETTERANyDOIyNENOEySIIyZATAkPENMARKBELOWkVERLINEjPALATALIZEDHOOKBELOWlRENTHESESABOVEuB",
    "ELOWuOVERLAYkLUSSIGNABOVErBELOWjRETROFLEXHOOKBELOWlVERSEDCOMMAABOVEqSOLIDUSOVERLAYkIGHTARROWABOVEtBELOWtHEADAB",
    "OVEyNDDOWNARROWHEADBELOW+aUPARROWHEADBELOWxBELOWoHALFRINGABOVEwBELOWqRPOONABOVEoPARENTHESISABOVERIGHTzBELOWRIG",
    "HToTACKBELOWoWARDSHARPOONWITHBARBDOWNWARDSlNGABOVEnBELOWnOVERLAYjSEAGULLBELOWkHORTSOLIDUSOVERLAYpTROKEOVERLAYo",
    "VERTICALLINEOVERLAYkNAKEBELOWkQUAREBELOWqRACKETSABOVEkTRONGCENTRALIZATIONSTROKEBELOWkUSPENSIONMARKjTHREEDOTSAB",
    "OVEkILDEoBELOWoLEFTHALFBELOWoOVERLAYoRIGHTHALFBELOWkRIPLEACUTEACCENTpDOTpUNDERDOTkURNEDCOMMAABOVEjUPTACKABOVEp",
    "BELOWlWARDSARROWBELOWkRABOVEkSABOVEjVERTICALLINEABOVEvBELOWrTILDEjWIDEBRIDGEABOVEnINVERTEDBRIDGEBELOWlGGLYLINE",
    "BELOWjXABOVEkBELOWkXBELOWjZIGZAGABOVEpBELOWdETdMAeERCIALATkMINUSSIGNdPASSeLEMENTeOSITIONSYMBOLeRESSIONcNFETTIB",
    "ALLeOUNDEDFACEeUSEDFACEdGRUENTWITHDOTABOVEdICALTAPERdJUNCTIONdSTRUCTIONSIGNmWORKERdTAINSASMEMBERkNORMALSUBGROU",
    "PyOREQUALTOiWITHLONGHORIZONTALSTROKEmOVERBARmVERTICALBARATENDOFHORIZONTALSTROKEeINUOUSUNDERLINESYMBOLeOURINTEG",
    "RALeROLKNOBShSEQUENCEINTRODUCERdVENIENCESTOREcOKEDRICEeIEfNGcPTICCAPITALLETTERAKHMIMICKHEIuLFAtBOHAIRICKHEItCR",
    "OSSEDSHEIvYPTOGRAMMICEIE+gGANGIA+gNI+gSHEItDALDAuEIuIALECTPALEF+bHORI+bKAPA+bNItEIEtFEIuItGAMMAvNGIAtHATEuORIt",
    "IAUDAtKAPAuHEIvIuSItLAULAuSHAPEDHAtMItNItOuLDCOPTICAIN+cDJA+cESH+cGANGIA+cHA+eT+dEI+dORI+cOOU+cSHEI+eIMAwNUBIA",
    "NNGI+dYI+cSHIMA+cWAUuOUtPIuSItROtSAMPIuHEIvIMAuIMAuOUtTAUuHETHEtUAtVIDAtZATAhOMBININGNIABOVEpSPIRITUSASPERxLEN",
    "ISgEPACTDIGITEIGHTqFIVErOURqNINEqONEqSEVENrIXqTHREErWOlNUMBEREIGHTHUNDREDwYrFIFTYtVEHUNDREDsORTYtURHUNDREDrNIN",
    "EHUNDREDvTYrONEHUNDREDrSEVENHUNDREDwTYsIXHUNDREDuTYrTENsHIRTYtREEHUNDREDsWENTYtOHUNDREDlTHOUSANDSMARKgFRACTION",
    "ONEHALFhULLSTOPgMORPHOLOGICALDIVIDERgOLDNUBIANDIRECTQUESTIONMARKpFULLSTOPpINDIRECTQUESTIONMARKpVERSEDIVIDERgSM",
    "ALLLETTERAKHMIMICKHEIsLFArBOHAIRICKHEIrCROSSEDSHEItYPTOGRAMMICEIE+eGANGIA+eNI+eSHEIrDALDAsEIsIALECTPALEFzHORIz",
    "KAPAzNIrEIErFEIsIrGAMMAtNGIArHATEsORIrIAUDArKAPAsHEItIsSIrLAULAsSHAPEDHArMIrNIrOsLDCOPTICAIN+aDJA+aESH+aGANGIA",
    "+aHA+cT+bEI+bORI+aOOU+aSHEI+cIMAuNUBIANNGI+bYI+aSHIMA+aWAUsOUrPIsSIrROrSAMPIsHEItIMAsIMAsOUrTAUsHETHErUArVIDAr",
    "ZATAhYMBOLKAInHIROmMIROmPIROmSHIMASIMAnTAUROSmTAUROdYLEFTSYMBOLeRIGHTSIGNcRALdNISHVERSEDIVIDERdRESPONDSTOcUCHA",
    "NDLAMPdNTERBOREhSINKfINGRODTENSDIGITEIGHTuFIVEvOURuNINEuONEuSEVENvIXuTHREEvWOlUNITDIGITEIGHTuFIVEvOURuNINEuONE",
    "uSEVENvIXuTHREEvWOdPLEWITHHEARTcWdFACEbRcABcEDITCARDdSCENTMOONcICKEThBATANDBALLcOCODILEdISSANTdSSEDFLAGShNEGAT",
    "IVESQUAREDLATINCAPITALLETTERPhSWORDSfINGLANESfMARKfOFJERUSALEMhLORRAINEfPATTYWITHLEFTCROSSBARoRIGHTCROSSBARgOM",
    "MEElWITHHALFCIRCLEBELOWdWNcUTCHdZEIROSIGNcYINGCATFACEgFACEdSTALBALLbSIbUBEROOTcCUMBERcNEIFORMNUMERICSIGNEIGHTA",
    "SHzDISHzGESH2zSHAR2zU+aVARIANTFORMzVARIANTFORMUSSU+o3vLAMITEFIFTY+cORTY+bONETHIRD+bTWOTHIRDSuFIVEASH+bTENUyBAN",
    "2+cVARIANTFORMzURUyDISHyGESH2+cUySHAR2+cUzIXTHSDISHyUzVARIANTFORMvOURASH+bTENUyBAN2+cVARIANTFORMzURUyDISHyGESH",
    "2+cUySHAR2+cUyUzVARIANTFORMyVARIANTFORMLIMMU+o4+oA+oBuNIGIDAESH+aMINwNEASHyDISHyGESH2ySHAR2yUzVARIANTFORMyVARI",
    "ANTFORMILIMMU+p3+p4+pAuOLDASSYRIANONEQUARTER+iSIXTHvNEBAN2yURUxEIGHTHASHySHE3xGESH2+bUxHALFGURxQUARTERASH+eGUR",
    "xSHARUxTHIRDDISH+cVARIANTFORMAuSEVENASHzDISHzGESH2zSHAR2zU+aVARIANTFORMzVARIANTFORMIMIN3+oA+oBvHAR2TIMESGALPLU",
    "SDISH+lMINvIXASH+aTENUxDISHxGESH2xSHAR2xUyVARIANTFORMxVARIANTFORMASH9uTHREEASH+cTENUzBAN2+aURU+dVARIANTFORMzDI",
    "SHzGESH2+dUzSHAR2+eVARIANTFORM+dU+eVARIANTFORMzVARIANTFORMESH16+n21vWOASH+aTENUxBAN2yURUxESHE3xGESH2+bUxSHAR2+",
    "bUxTHIRDSDISH+dVARIANTFORMAjPUNCTUATIONSIGNDIAGONALCOLON+gQUADCOLON+gTRICOLONyOLDASSYRIANWORDDIVIDERyVERTICALC",
    "OLONjSIGNAo2oBp2qTIMESAvBALAGvGAN2TENUvMEPLUSENvSHA3vTAK4pGUNUpTIMESASH2uDUN3GUNUuGALwN2TENUuHAuIGIGUNUvMINuLA",
    "GABuNUNxTENUuSHESHwU2uUPLUSUPLUSUoDpTIMESESH2oKpTIMESERIN2uSHITAPLUSGISHoLpANpEPHpTIMESALuDIM2uGISHuHAuKAD3vIu",
    "SHEuUSHoMARrTIMESKUGwSHEoNpOVERANpPLUSNAGAOPPOSINGANPLUSNAGAxSQUAREDpSHEpTHREETIMESoPINoRADrTIMESKURpKABoSAL2p",
    "Hq2qGABqKABATENUqOVERASHOVERASH+eCROSSINGASHOVERASHOVERASHxTUG2OVERTUG2TUG2OVERTUG2PAPqZIDATENUoTIMESAtBADtGAN",
    "2TENUtHAtIGItLAGARGUNUtMUSHtSAGnBApDqTIMESDISHTENUpG3pHAR2tTIMESAB2yNIyZApLqAGqOVERBALpRqA2oIpTIMESAuGARuIGIGU",
    "NUoUpCROSSINGBUpLUGsOVERBULUGpOVERBUABvTIMESNA2vUNpRq2nDApGq3qKISIM5TIMESAMAR+cPLUSMASH+bBALAG+cI+bGA+dPLUSMAS",
    "H+cI+dR2+cUD+bHA+bIR+dPLUSLU+bKAK+bLA+cU+dM+dPLUSMASH2+bNE+bPAPPLUSPAP+bSI+bTAK4+bU2PLUSGIR2+hMASH+cSHqTIMESKU",
    "RpMpRqA3r4pTIMESTAK4oIpBpMq2rTIMESUDqTIMESIGIvSHEvUUUpNqKASKALUGUNUDISHpSHrPLUSSHUoUpBq2qTIMESESH2vSHEpGqTIMES",
    "ANSHEwSHyATLEFTvDINwUNvERIN2vGAwIxR2GUNUxSHvHAwIvIGIGUNUvKASKALwURxSHU2+bPLUSKASKALvLAK020xMyTIMESKURwUHPLUSGI",
    "SHvMASHwESwIvNIvPIvSHEwIGUNUqUDrNUpHpNq3rGUNUvGUNUq4pOVERDUpR2pSHESHIGnEo2pTIMESAPLUSHAPLUSDAuGARuKURuMIuPAPuS",
    "ALvHEuUoDINoGIRoLoNpCROSSINGENpOPPOSINGENpSQUAREDpTIMESGAN2yTENUuMEoOVERENUNOVERNUNoRENpIN2sXoSH2rCROSSINGESH2",
    "oTIMESPAPoZENrSHESHIGTIMESASH+dHI+dIGIGUNU+dLA+fL+dME+fS+dSUrTIMESAxNxPLUSLAL+eTIMESLALwBADwDUN3GUNU+eGUNUwGUD",
    "wHAyGUNUwIGIGUNUwKASKAL+cSQUAREDxU3wLAyLTIMESLALxIxUwSHExUwU2xDnGAp2qOVERGA2qTIMESAB2TENUPLUSTABwNxPLUSKAKPLUS",
    "AwPLUSDAPLUSHA+aHA+aIGIwSHy2zPLUSGALvBADxHAR2xRPLUSRAwURyPLUSRAvDAwIxMGUNUyTIMESSHEwUBxGTIMESIGIGUNU+dKASKALvE",
    "LxPLUSLAwNxTIMESGAN2TENUwRENvGAxN2TENUxRyPLUSDI+cNEwIx4yPLUSAxR2PLUSSUvHALyPLUSLAxPLUSA+bLUPLUSESH2wIPLUSLIwUB",
    "2vIGIGUNUwSHPLUSHUPLUSASHvKAKxSKALwIDyPLUSLALwU3PLUSANxSHU2PLUSKASKALvLAxMyTIMESKURwUHvMEPLUSENwIwUSHvNExPLUSE",
    "2+bGIwUNyOVERNUNvPAvSALxRwHEyPLUSTURxIDyMwUMvTAK4vUwDxPLUSDUvZIZ2pBArCROSSINGGABArROTATEDNINETYDEGREESpDqOVERG",
    "ADGAROVERGARpGUNUpLqAMqGADOVERGADGAROVERGARpMpNq2rCROSSINGGAN2rOVERGAN2rTENUpRq3pSHANoE22pSHTINuTIMESKURzUoIp4",
    "qCROSSINGGI4qOVERGI4pCROSSINGGIpDIMpGpR2rGUNUq3rTIMESAPLUSIGIwGAN2TENUwIGIwLUPLUSIGIwPApSALqHrCROSSINGGISHrTEN",
    "UsIMESBADwGISHCROSSINGGISHwTAK4pTIMESEuUoUp2qGUNUqTIMESIGIGUNUvKAKyTIMESIGIGUNUvNUNvSALPLUSTUG2pCROSSINGGUpDqO",
    "VERGUDLUGALqPLUSGISHTIMESTAK4qTIMESAPLUSKURvKURpLpMqTIMESSHEpRq7qUNrSHnHApGUNUpLpTENUtGUNUoIpTIMESASHx2xOVERHI",
    "TIMESASHuBADuDISHuGADuKINuNUNuSHEuUoUpB2rTIMESANwHALwKASKALwLISHwUDpL2pSHnIoAoBoDIMrOVERIDIMBURzSQUAREDoGpIqDI",
    "BqGUNUqOVERIGISHIROVERSHIRUDOVERUDqRIoLp2pTIMESGAN2TENUoMpCROSSINGIMpINpOPPOSINGIMpSQUAREDpTIMESTAK4oNoRoSHnKA",
    "p2qCROSSINGKA2pBpD2q3q4q5rOVERKAD5pKqTIMESIGIGUNUpLqCROSSINGKALqTIMESBADpM2q4pPELAMITEpSKALtLAGABTIMESUOVERLAG",
    "ABTIMESUtOVERKASKALLAGABTIMESUOVERLAGABTIMESUpTIMESAvDwPLUSKU3vNSHEvSH2x3uBADwLAGwRvIvUuERIN2vSH2uGAwLwN2TENUw",
    "RxPLUSSHA3PLUSAvIwR2wSHyCROSSINGGISHyPLUSSARvUwDwR7uHITIMESASH2uIGIvMuKAwKvIwDuLIvUwMuMEwPLUSDU+aGI+aTEvIwPLUS",
    "NUNUZuNEvUNuPAvIuRUuSAwRvHAwEwIDwUxLvIGvUHURuTARvUuUv2vDvMUMTIMESPAvRw2vSHvUUuZIoESH2oIpDpNpSALqHqIM5tOVERKISI",
    "M5pTIMESBADuUvDoUp3p4qVARIANTFORMp7pLqGUNUpNpOVERHITIMESASH2KUOVERHITIMESASH2pRqOPPOSINGKURpSHU2oWU318nLApGABs",
    "SQUAREDsTIMESAyLyNyPLUSDAPLUSHA+cGAR+cLALySHZIDATENUxBADyIxDARxENxGAzRyIyUD+aPLUSGUDxHAzLyITIMESNUNxIGIGUNUyMz",
    "PLUSHA+dLUxKIzNyU3zL+aPLUSHIPLUSAxLAGAByISHyUzLxMEzPLUSENyUSHxNExSHEPLUSSUMzITAPLUSGISHPLUSERIN2+kTENUzU2+bPLU",
    "SSHU2yUMxTAGzK4yEPLUSAPLUSSUPLUSNAxUy2PLUSASHyDyPLUSA+cUPLUSUySHxZUOVERZUrRsGUNUwOVERLAGARGUNUSHEsTIMESSHE+aPL",
    "USSUMpHSHUpK003r21s5r30r50s1r62r79OVERLAK079GUNUr80s1OVERLAK081r92q130r42q210s9r20s5s8r38r65s6q343s7s8r83s4r90",
    "q441s9tTIMESGUyIGIyPAPPLUSLU3+fPAPPLUSLU3yU2PLUSBAr50s7r70r83r90s2s3s5q550q608r17tTIMESASHyBADyDUN3GUNUGUNUyKU",
    "3yLAyTARzEyU2zDzRUDAr36r48tTIMESDUByGAyIGI+bGUNUyNIyPAPPLUSPAPPLUSLU3ySHESHPLUSKIyUDzRUDAq724r49pLqTIMESLALpMq",
    "TIMESKURyPLUSRUoIpLpMMU2pSHoUp2qCROSSINGLU2qGUNUTIMESASHqOPPOSINGLU2qSHESHIGxTIMESBADrQUAREDqTENUrIMESALvBADvD",
    "ISHvESH2zPLUSLALzTENUvGAN2TENUvHALwITIMESBADvIMvKAD2y3zPLUSASHwIvLAGABxPLUSASHvMEPLUSENvNEwUvPAPyPLUSPAPPLUSLU",
    "3vSHUwIK2PLUSBUxPLUSASHvTAK4wUG2p3pGALsOPPOSINGLUGALtVERLUGALsSHESHIGpHpLpMqOVERLUMxGAROVERGARpTIMESBADnMAp2pG",
    "UNUpHpRpSHr2pTIMESTAK4oEpSqHoIpNpPLUSZA7oUpGqGUNUpNSUBpOVERMUpRGU2pSHr3sGUNUsTIMESAyPLUSDIxDIxZArCROSSINGMUSHr",
    "OVERMUSHzTIMESAPLUSNA+eGA+eKAKrTIMESAwKURwZAnNAp2p4pGArINVERTEDrOPPOSINGNAGArRrTIMESSHUTENUpMq2qNUTILLUoEpSHES",
    "HIGpTIMESAuUDoIp2pMqTIMESGAN2TENUxRPLUSGAN2TENUpNq9qDA2tTIMESANzSH+bPLUSASHyBALyDIMGUNUyGI+aSHzUD+aLyHIyKESH2y",
    "LAK050yMASHzEPLUSGAN2TENUyNEzUNyPAPPLUSPAPySHE+bPLUSAAN+gSH+iPLUSASHyUz2PLUSASHzPLUSUzRUDAzSHpSAGpTIMESEoUp11r",
    "OVERNU11BUROVERBURrROTATEDNINETYDEGREESrTENUpNqCROSSINGNUN+bLAGAROVERLAGARqLAGARTIMESGAR+aMASH+aSAL+dOVERNUNLA",
    "GARTIMESSAL+aUSHqOVERNUNqTENUqUZsAB2TIMESASHGAB+aBI+aDUG+aGUD+aIGIGUNU+aKAD3+aLA+aNE+aSILA3+aU2sKISIM5TIMESBI+",
    "fUnPApDpNpPoESH2sASTERISKoIpCROSSINGPIpR2qIGsOPPOSINGPIRIGsTIMESKALxUDxZApTIMESAvBuBIvUuEuIvBuUv2nRApBoIoUnSAp",
    "GqGUNUuTIMESHAqNUTILLUqOVERSAGqTIMESAvDUxBvENvHAvIGIGUNUvKAKwURvLUMvMIvNUNvSALwHEATLEFTxIDvTABxK4vU2wBwMwRwSHp",
    "LqLAGABTIMESASH2pNGA2pRoHAq3rTIMESAwBADwGISHwNEwSHU2wTURwUxPLUSAq6rTENUqB6qR2pEqG9qHUqNqOVERSHExGADOVERGADGARO",
    "VERGARxTABOVERTABGAROVERGARqPLUSHUB2uNAM2uSARqSHs2sLAMpIDrTIMESAwIMqMrTIMESAwBALxULUGwDINwGARwIGIzGUNUwKUSHU2w",
    "LULwMUGwSALqNIGqRrOVERSHIRBUROVERBURrTENUqTApUq2rPLUSDUGTIMESNIvE2TIMESANqBURqOVERINVERTEDSHUoIpGq4rOVERSIG4SH",
    "U2qUNUpK2pLA3pTIMESTAK4oUpDq2pHURpMqASHpOVERSUpRq9nTApASTERISKpBqOVERTABNIOVERNIDISHOVERDISHqSQUAREDpGqTIMESBI",
    "vGUDvSHExUvTUG2vUDqUNUpK4rPLUSSAGpRpTIMESHIuMIoEpGUNUoIp2pLpRqOVERTIRxGADOVERGADGAROVERGARqTIMESTAK4pTENUoUpG2",
    "pKpMqTIMESGAN2TENUvTHREEDISHpRqOVERTURZAOVERZAnUo2oBoDpGUNUpKUSHU2pSHESHIGwTIMESBADpTIMESBADuMIuUPLUSUPLUSU+fG",
    "UNUpUGoGUDoMpBINpTIMESLAGABuMEwPLUSDAuSHA3uUpUMrTIMESKASKALwPAoNpGUNUoOVERUPAOVERPAGAROVERGARtSUROVERSURtUREVE",
    "RSEDOVERUREVERSEDoRp2qINVERTEDqTIMESALwPLUSHA+aNAvHAvNUNvU2xPLUSASH+bBIwDp4pCROSSINGURpIq3pSHESHIGpUqDAsTIMESU",
    "qTIMESAwSHGABvBARvDARA3wUNvGAxLxN2TENUxRwUvHAvIGIwMwSHvKIvLAK668wU3xMvMINvPAvSHEwIG4vTUvUDwPLUSGUDwRUDAoSHq2qT",
    "IMESAvKUxRvTAK4qUMXqXoTUKIoUpUoZ3qTIMESKASKALpUnZAp7pGpMXpSQUAREDTIMESKURpTENUoE2oIp3pBqKABATENUpGpOVERZIpZ2oU",
    "p5qTIMESAvTHREEDISHTENUpBURpMpOVERZUPLUSSARcPCAKEdIDOdONBLACKSQUAREdWITHSTRAWcRLINGSTONEeYBRACKETEXTENSIONfLOG",
    "ICALANDmORhOPdRENCYEXCHANGEiSIGNeYANDRICEdVEDSTEMPARAGRAPHSIGNORNAMENTcSTARDeOMScTOFMEATbYCLONEcLINDRICITYcPRI",
    "OTSYLLABLEApEpIpJAqOpKAqEqIqOqUpLAqEqIqOqUpMAqEqIqOqUpNAqEqIqOqUpOpPAqEqIqOqUpRAqEqIqOqUpSAqEqIqOqUpTAqEqIqOqU",
    "pUpWAqEqIqOpXAqEpZAqOeOMINOANSIGNCM001t2t4t5t6t7t8t9s10t1t2uBt3t5t7t9s21t3t4t5t6t7t8t9s30t3t4t5t6t7t8t9s40t1t4",
    "t6t7t9s50t1t2t3t4t5t6t8t9s60t1t2t3t4t6t7t8t9s70t1t2t3t4t5uBt6t8t9s80t1t2t3t4t5t6t7t8t9s90t1t2t4t5t6t7t8t9r100t",
    "1t2t3t4t5t7t8t9s10t2t4r301t2cRILLICCAPITALLETTERAwBKHASIANCHE+hWITHDESCENDER+eDZE+eHAwLEUTKAwWITHBREVE+aDIAERE",
    "SISvBARREDO+cWITHDIAERESISxSHKIRKAwEwIGYUSxNOCULAROwLENDEDYUSwROADOMEGAwYELORUSSIANUKRAINIANIvCCHEwHEyWITHDESC",
    "ENDER+dIAERESIS+cVERTICALSTROKEwLOSEDLITTLEYUSwROSSEDOvDCHEwEwJEyRVwOUBLEMONOCULARO+bOwWEwZEyLOxHExWExZEyHEvEw",
    "FwLxWITHDESCENDER+bHOOK+bMIDDLEHOOK+bTAILwMxWITHTAILwNxWITHDESCENDER+bHOOK+bLEFTHOOK+bMIDDLEHOOK+bTAILwRxWITHT",
    "ICKwSxWITHDESCENDERwWITHDIAERESISvFITAvGHEyWITHDESCENDER+cMIDDLEHOOK+cSTROKE+iANDHOOK+cUPTURNwJEvHAxRDSIGNxWIT",
    "HDESCENDER+bHOOK+bSTROKEwWEvIwExWITHBREVE+bGRAVEwOxTAyIFIEDA+dBIGYUS+dCLOSEDLITTLEYUS+dE+dLITTLEYUS+dYATwWITHD",
    "IAERESIS+aGRAVE+aMACRONwZHITSA+cWITHDOUBLEGRAVEACCENTvJEvKAxWITHDESCENDER+bHOOK+bSTROKE+bVERTICALSTROKEwHAKASS",
    "IANCHEwJEwOMIDE+aJE+aZJEzLJEzNJEzSJEzTJEzZJExPPAwSIvLHAwITTLEYUSwJEvMONOCULAROzGRAPHUKvNEUTRALYERwJEvOwMEGA+aW",
    "ITHTITLOwTwWITHDIAERESISvPExWITHDESCENDER+bMIDDLEHOOKwSIvQAvREVERSEDDZE+dTSE+dYU+dZEwHAwOUNDOMEGAvSCHWA+aWITHD",
    "IAERESISwEMISOFTSIGNwHAxCHAxHAzWITHDESCENDERxORTI+bWITHTAIL+aUxWEwOFTDEzEL+aMzSIGNwTRAIGHTU+eWITHSTROKEvTCHEwE",
    "xWITHDESCENDER+bMIDDLEHOOKwSExHExSExWEwWEvUwKxRAINIANIEwWITHDIAERESIS+bOUBLEACUTE+aMACRONvVEvWEvYAxExTwERUzWIT",
    "HBACKYER+dDIAERESISwIwNwUvZExMLYAxWITHDESCENDER+cIAERESISwHEyWITHBREVE+cDESCENDER+dIAERESISxWEqIGATUREAIExENGH",
    "ExTETSEiKAVYKAiLETTERMULTIOCULAROoPALOCHKAoSMALLCAPITALELiPAYEROKiSMALLLETTERAuBKHASIANCHE+fWITHDESCENDER+cDZE",
    "+cHAuLEUTKAuWITHBREVEyDIAERESIStBARREDO+aWITHDIAERESISvSHKIRKAuEuIGYUSvNOCULAROuLENDEDYUSuROADOMEGAuYELORUSSIA",
    "NUKRAINIANItCCHEuHEwWITHDESCENDER+bIAERESIS+aVERTICALSTROKEuLOSEDLITTLEYUSuROSSEDOtDCHEuEuJEwRVuOUBLEMONOCULAR",
    "OzOuWEuZEwLOvHEvWEvZEwHEtEuFuLvWITHDESCENDERzHOOKzMIDDLEHOOKzTAILuMvWITHTAILuNvWITHDESCENDERzHOOKzLEFTHOOKzMID",
    "DLEHOOKzTAILuRvWITHTICKuSvWITHDESCENDERuWITHDIAERESIStFITAtGHEwWITHDESCENDER+aMIDDLEHOOK+aSTROKE+gANDHOOK+aUPT",
    "URNuJEtHAvRDSIGNvWITHDESCENDERzHOOKzSTROKEuWEtIuEvWITHBREVEzGRAVEuOvTAwIFIEDA+bBIGYUS+bCLOSEDLITTLEYUS+bE+bLIT",
    "TLEYUS+bYATuWITHDIAERESISyGRAVEyMACRONuZHITSA+aWITHDOUBLEGRAVEACCENTtJEtKAvWITHDESCENDERzHOOKzSTROKEzVERTICALS",
    "TROKEuHAKASSIANCHEuJEuOMIDEyJEyZJExLJExNJExSJExTJExZJEvPPAuSItLHAuITTLEYUSuJEuONGLEGGEDDEtMONOCULAROxGRAPHUKtN",
    "ARROWOuEUTRALYERuJEtOuMEGAyWITHTITLOuTuWITHDIAERESIStPALOCHKAuEvWITHDESCENDERzMIDDLEHOOKuSItQAtREVERSEDDZE+bTS",
    "E+bYU+bZEuHAuOUNDEDVEyOMEGAtSCHWAyWITHDIAERESISuEMISOFTSIGNuHAvCHAvHAxWITHDESCENDERvORTIzWITHTAILyUvWEuOFTDExE",
    "LyMxSIGNuTRAIGHTU+cWITHSTROKEtTALLHARDSIGNxTExYATuCHEuEvWITHDESCENDERzMIDDLEHOOKuHREELEGGEDTEuSEvHEvSEvWEuWEtU",
    "uKvRAINIANIEuNBLENDEDUKuWITHDIAERESISzOUBLEACUTEyMACRONtVEtWEuIDEEStYAvEvTuERUxWITHBACKYER+bDIAERESISuIuNuUtZE",
    "vMLYAvWITHDESCENDER+aIAERESISuHEwWITHBREVE+aDESCENDER+bIAERESISvWEoIGATUREAIEvENGHEvTETSEjUBSCRIPTSMALLLETTERA",
    "+cBE+dYELORUSSIANUKRAINIANI+cCHE+cDE+dZE+eHE+cEF+dL+dS+cGHE+fWITHUPTURN+cHA+eRDSIGN+cI+dE+cKA+cO+cPE+cSHA+cTSE",
    "+cU+cVE+cYERU+cZE+dHEiTHOUSANDSSIGN"]

/-- The names that start with D. -/
def namesD : List String :=
  ["aDAGGERgKNIFEgWITHLEFTGUARDkRIGHTGUARDcLETSYMBOLcNCERdGOcRKSHADEfUNGLASSEScSHEDLOWLINEgOVERLINEgTRIANGLEHEADED",
    "RIGHTWARDSARROWeSYMBOLeWITHLEFTUPTURNcTALINKESCAPEbC1c2c3c4cSbEAFPERSONcCIDUOUSTREEeMALEXPONENTSYMBOLhSEPARATO",
    "RKEYSYMBOLdREASEFONTSIZESYMBOLcERcGREECELSIUSgFAHRENHEITgSIGNcLdETEdIVERYTRUCKdTAEQUALTOcNTISTRYSYMBOLLIGHTDOW",
    "NANDHORIZONTAL+lWITHCIRCLE+pTRIANGLE+pWAVEuUPANDHORIZONTAL+jWITHCIRCLE+nTRIANGLE+nWAVEuVERTICALANDBOTTOMLEFT+l",
    "RIGHT+fTOPLEFT+iRIGHT+fWAVE+cWITHCIRCLE+gTRIANGLEcPARTMENTSTOREcRELICTHOUSEBUILDINGcSCENDINGNODEdERETCAPITALLE",
    "TTERAYuBEEuCHEEuDEEuEFvLvMvNwGvRvSwHvTHvWuGAYuHuJEEuKAYuLONGAzHyEyIyOzOuOIvWuPEEuSHORTA+aHzEzIzO+aOuTEEvHEEuVE",
    "EuWUuYEEuZEEvHEEhSMALLLETTERAYsBEEsCHEEsDEEsEFtLtMtNuGtRtSuHtTHtWsGAYsHsJEEsKAYsLONGAxHwEwIwOxOsOItWsPEEsSHORT",
    "AyHxExIxOyOsTEEtHEEsVEEsWUsYEEsZEEtHEEfTgISLANDdKTOPCOMPUTERhWINDOWcVANAGARIABBREVIATIONSIGNlCUTEACCENTkCARETk",
    "DANDAlIGITEIGHTpFIVEqOURpNINEpONEpSEVENqIXpTHREEqWOpZEROlOUBLEDANDAkGAPFILLERlRAVEACCENTkHEADMARKsWITHHEADSTRO",
    "KEoSTROKEkJAINOMkLETTERArArIrUrWrYqBArBArHAqCAsNDRAAwEwOrHAqDArDAsDAtHAsHArHAqEqFAqGArGArHAsHArLOTTALSTOPqHArE",
    "AVYYAqIrIqJArHArJAqKArHAsHAqLArLAsLAqMAsRWARIDDAqNArGArNAsNArYAqOrErOEqPArHAqQAqRArHArRAqSArHAsORTAvEvOrSAqTAr",
    "HArTAsHAqUrErUsEqVArOCALICLyLxRyRqYArYAqZArHAkOMkSIGNANUSVARApVAGRAHAoBHALEtWITHHOOKoCANDRABINDUzAVAGRAHAzTHRE",
    "E+aWOzVIRAMAoDOUBLECANDRABINDUVIRAMAoEXTENDEDBHALE+bWITHHOOKoHIGHSPACINGDOToINVERTEDCANDRABINDUoMINDUoNUKTAoPU",
    "SHPIKAoREVERSEDNINELIKEBHALEoSIDDHAMpPACINGCANDRABINDUoVIRAMAqSARGAoWESTERNFIVELIKEBHALEvNINELIKEBHALElTRESSSI",
    "GNANUDATTAuUDATTAkVOWELSIGNAAuIuUuWuYtCANDRAEzLONGEzOtEtIuItOuEuOEtPRISHTHAMATRAEtSHORTEyOtUuEuUvEtVOCALICL+bL",
    "+aR+bRdICECONTROLFOURnONEnSTRINGnTHREEoWObIAERESISdMETERSIGNeONDOPERATORhSHAPEWITHADOTINSIDEhTARGEThWITHBOTTOM",
    "HALFBLACKlLEFTHALFBLACKlRIGHTHALFBLACKlTOPHALFBLACKcEFACE1h2h3h4h5h6dSELLOCOMOTIVEcFFERENCEBETWEENcGITEIGHTkCO",
    "MMAkFULLSTOPfFIVEjCOMMAjFULLSTOPgOURjCOMMAjFULLSTOPfNINEjCOMMAjFULLSTOPfONEiCOMMAiFULLSTOPfSEVENkCOMMAkFULLSTO",
    "PgIXiCOMMAiFULLSTOPfTHREEkCOMMAkFULLSTOPgWOiCOMMAiFULLSTOPfZEROjCOMMAjFULLSTOPdRAMFOREARTHoLYHEAVENrUMANjGREAT",
    "ERYANGrINjHEAVENLYEARTHkUMANEARTHjLESSERYANGqINcMENSIONORIGINcNGBATCIRCLEDSANSSERIFDIGITEIGHT+cFIVE+dOUR+cNINE",
    "+cONE+cSEVEN+dIX+cTHREE+dWO+cZEROxNUMBERTENhNEGATIVECIRCLEDDIGITEIGHT+bFIVE+cOUR+bNINE+bONE+bSEVEN+cIX+bTHREE+",
    "cWOwNUMBERTENwSANSSERIFDIGITEIGHT+kFIVE+lOUR+kNINE+kONE+kSEVEN+lIX+kTHREE+lWO+kZERO+fNUMBERTENcRECTCURRENTSYMB",
    "OLFORMTWOgHITcSABLEDCARePPOINTEDBUTRELIEVEDFACEmFACEdCONTINUOUSUNDERLINESYMBOLdGUISEDFACEcTTOMARKcVESAKURUDIGI",
    "TEIGHTpFIVEqOURpNINEpONEpSEVENqIXpTHREEqWOpZEROlOUBLEDANDAkENDOFTEXTMARKkGAPFILLERkINITIALRAkLETTERArAqBArHAqC",
    "ArHAqDArDAsHArHAqEqGArHAqHAqIrIqJAqKArHAqLArLAqMAqNArGArNArYAqOqPArHAqRAqSArHArSAqTArHArTAqUrUqVAqYArYAqZAkMED",
    "IALRAqYAkPREFIXEDNASALSIGNkSIGNANUSVARAoCANDRABINDUoHALANTAoNUKTAkVIRAMAlOWELSIGNAAuItEtIuItOtUuUdIDESeNGMASKe",
    "SIONSIGNjLASHiTIMESdORCESYMBOLcYALAMPcZZYFACEfSYMBOLbLEbNADOUBLEHELIXbOCUMENTiWITHPICTUREmTEXTqANDPICTUREcDOcE",
    "SNOTCONTAINASMEMBERqNORMALSUBGROUP+eOREQUALhDIVIDEnWITHREVERSEDNEGATIONSLASHhFORCEhPRECEDEoOREQUALjOVEhSUCCEED",
    "oOREQUALcGdFACEdRAABBREVIATIONSIGNfLETTERAmAmImUlBAmHAlCAmHAlDAmDAnHAmHAlElGAmHAlHAlImIlJAmHAlKAmHAlLAlMAlNAmG",
    "AmNAmYAlOlPAmHAlRAmRAlSAmHAmSAlTAmHAmTAnHAlUmUlVAlYAfSIGNANUSVARAjNUKTAjVIRAMAlSARGAfVOWELSIGNAApIpUoEoIpIoOoU",
    "pUoVOCALICRwRcLLARSIGNdPHINcMINOTILEHORIZONTAL0000x1x2x3x4x5x6v100x1x2x3x4x5x6v200x1x2x3x4x5x6v300x1x2x3x4x5x6",
    "v400x1x2x3x4x5x6v500x1x2x3x4x5x6v600x1x2x3x4x5x6uBACKkVERTICAL0000v1v2v3v4v5v6t100v1v2v3v4v5v6t200v1v2v3v4v5v6",
    "t300v1v2v3v4v5v6t400v1v2v3v4v5v6t500v1v2v3v4v5v6t600v1v2v3v4v5v6sBACKcNGSIGNdKEYdOTLITTERSYMBOLcORcTABOVEdMINU",
    "SdOPERATORdPLUSdTEDCIRCLEhROSSgFENCEgLINEFACEgOBELOSgRIGHTPOINTINGANGLEgSOLIDUShQUAREgTRANSPOSITIONMARKERcUBLE",
    "ACUTEACCENTgCIRCLEDDIGITEIGHTsFIVEtOURsNINEsONEsSEVENtIXsTHREEtWOnNUMBERTENhOLONEQUALhURLYLOOPgDAGGERhFEMALESI",
    "GNhMALESIGNhOWNTACKhSYMBOLgENDEDMULTIMAPhXCLAMATIONMARKgHIGHREVERSED9QUOTATIONMARKhYPHENgINTEGRALkRSECTIONgLEF",
    "TARCGREATERTHANBRACKEThINEEQUALTOORGREATERTHANtLESSTHANkSLANTEDEQUALTOORGREATERTHAN+aLESSTHANrGREATERTHANOREQU",
    "ALTOrLESSTHANOREQUALTOhOGICALANDnORiW9QUOTATIONMARKjLINEjREVERSED9QUOTATIONMARKgNESTEDGREATERTHANmLESSTHANuWIT",
    "HUNDERBARgOBLIQUEHYPHENgPLUShRECEDESiIMElQUOTATIONMARKgQUESTIONMARKgRIGHTARCLESSTHANBRACKETgSOLIDUSOPERATORhQU",
    "AREINTERSECTIONmUNIONhTACKEDCOMMAiROKENOTSIGNjUCKCAPITALCtGAMMAtHtNtPuItQtRtZmITALICCAPITALDsSMALLDxExIxJmNARY",
    "SUMMATIONmSMALLGAMMArPIhUBSETiCCEEDSiPERSETiSPENSIONMARKgUNIONhPTACKgVERTICALBARrDOUBLELEFTTURNSTILExRIGHTTURN",
    "STILErLEFTTURNSTILEoLINEgWAVYOVERLINEdGHNUTcVEOFPEACEcWNARROWHEADeFISHTAILePOINTINGREDTRIANGLEmSMALLREDTRIANGL",
    "EmTRIANGLEWITHLEFTHALFBLACKyRIGHTHALFBLACKeRIGHTDIAGONALELLIPSISeTACKiWITHCIRCLEBELOWeWARDFACINGHOOKsWITHDOToN",
    "OTCHEDHOOKzWITHDOTiSANCORAkRROWoANDRIGHTONEEIGHTHBLOCKoFROMBARoLEFTWARDSOFUPWARDSARROWoTOBARoWITHCORNERLEFTWAR",
    "DSsDOUBLESTROKEsEQUILATERALARROWHEADsHORIZONTALSTROKEsLARGETRIANGLEARROWHEADsMEDIUMTRIANGLEARROWHEADsNOTCHEDTA",
    "ILsSMALLEQUILATERALARROWHEADxTRIANGLEARROWHEADsTIPLEFTWARDSvRIGHTWARDSjBLACKARROWoCIRCLEDWHITEARROWjCOMPRESSED",
    "ARROWjDASHEDARROWkOUBLEARROWjFINGERPOSTARROWjHARPOONWITHBARBLEFTBESIDEDOWNWARDSHARPOONWITHBARBRIGHT+iUPWARDSHA",
    "RPOONWITHBARBRIGHT+cFROMBAR+cTOBAR+cWARDSyRIGHTFROMBAR+dTOBAR+dWARDSkEAVYARROWoCOMPRESSEDARROWjPAIREDARROWSjQU",
    "ADRUPLEARROWjROCKETjSANSSERIFARROWkQUAREDARROWjTRIANGLEARROWHEADrHEADEDARROW+cLEFTWARDSOFUPWARDSTRIANGLEHEADED",
    "ARROW+cTOBAR+cWITHBOLDSHAFT+gDOUBLEHORIZONTALSTROKE+gHEAVYSHAFT+gLONGTIPLEFTWARDS+nRIGHTWARDS+gMEDIUMSHAFT+gNA",
    "RROWSHAFT+gVERYHEAVYSHAFTxDASHEDARROWxPAIREDARROWSxZIGZAGARROWmPLEARROWkWOHEADEDARROWxWITHTRIANGLEARROWHEADSjW",
    "HITEARROWtWITHINTRIANGLEARROWHEADjZIGZAGARROWbRACHMASIGNdFTINGPOINTRIGHTWARDSARROWdGONgFACEcESScIVESLOWSIGNcOM",
    "EDARYCAMELdOLINGFACEdPLETeOFBLOODcUMWITHDRUMSTICKSbUCKcMPLINGcPLOYANAFFIXATTACHEDEHOOKvIHOOKvLEFTTORIGHTSECANT",
    "vSECANTvTAILxNGENT+cHOOKnHIGHACUTErCIRCLErDOTrGRAVErLINEsONGGRAVErTIGHTACUTErVERTICALzSECANTrWAVEnLEFTHORIZONT",
    "ALSECANToOWACUTErRROWqCIRCLEqDOTqGRAVEqLINErONGGRAVEqTIGHTACUTEqVERTICALySECANTqWAVEnMIDHORIZONTALSECANTqVERTI",
    "CALSECANTnRIGHTHORIZONTALSECANTiDOUBLEMARKiLETTERApOUoBoDpHpSoEpEpUoFpNoGpRSoHpLoIpEoJpMqSpNqSpSqWITHDOTpWITHD",
    "OTwSINSIDEANDABOVEoKpKpMpRSoLpHpONGIsUoMpNqSpSpWITHDOToNpASALAtItOtUpMqSpSpWITHDOToOpApOHpUpWoPpERNINAMvNpNoRp",
    "HpOMANIANIwUpSoSpHORTIpJqSpKqRpLOANANtDHtEEuHuNtJtONuWtUpMpNpPqRpSpTqRpWITHDOTwBELOWoTpHpRSpSoUpHpIpNoVpOCALIC",
    "MoWpApEIpHpIpOqWpRoXpWoYEiPUNCTUATIONCHINOOKFULLSTOPiSIGNOWITHCROSSiTHICKLETTERSELECTORbVD"]

end CharacterName

end Text

end PythonAudit
