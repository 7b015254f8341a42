/-!
# Names of characters from O to Z

The names are in order, without blanks and without hyphens inside words, and cut into lines of one length.
Each name starts with how many characters it shares with the one before it, from `a` for none to `z` for 25; a
plus sign adds 26.
-/

namespace PythonAudit

namespace Text

namespace CharacterName

/-- The names that start with O. -/
def namesO : List String :=
  ["aOBJECTREPLACEMENTCHARACTERcLIQUEANGLEOPENINGDOWNtUPhHYPHENcSERVEREYESYMBOLbCCULTATIONcRAMOUNTOFCHECKdBELTBUCK",
    "LEeOWTIEeRANCHBANKIDENTIFICATIONdCHAIReUSTOMERACCOUNTNUMBERdDASHeOUBLEBACKSLASHdFORKdHOOKdINVERTEDFORKcTAGONAL",
    "SIGNdOPUSbDENbFFICEBUILDINGbGHAMFEATHERMARKfLETTERAILMlBEITHlCEIRTmOLLlDAIRlEABHADHnDHADHnMHANCHOLLlFEARNlGORT",
    "lIFINmODHADHlLUISlMUINlNGEADALmIONlONNmRlPEITHlRUISlSAILmTRAIFlTINNElUATHmILLEANNmRfREVERSEDFEATHERMARKfSPACEM",
    "ARKcONEKbHMSIGNbILDRUMbKHANDSIGNbLCHIKIAHADhDIGITEIGHTmFIVEnOURmNINEmONEmSEVENnIXmTHREEnWOmZEROhGAAHLAATTUDDAA",
    "GhLETTERAAJpKpMpWoGoLoNGoTnEDDoNoPoRRnIHoNYoRoSnLApAoEoIoOoUnOBoHoTToVnUCoDoNNoYhMUGAAHLAATTUDDAAGjTTUDDAGhPHA",
    "ARKAAiUNCTUATIONDOUBLEMUCAADsMUCAADhRELAAcDCHINESEHOOKMARKkITERATIONMARKdERADULTfMANfWOMANdHUNGARIANCAPITALLET",
    "TERA+aA+aK+aMB+aNDzCLOSEEzE+aB+aC+bH+bS+aD+aE+aF+aG+bY+aH+aJ+aK+aL+bY+aM+bP+aN+bC+bT+cSHAPEDSIGN+bY+aP+aR+aS+b",
    "Z+aT+bY+aV+aZ+bSzI+aIzNIKOLSBURGOE+jUEzO+aEE+aOzRUDIMENTAOE+iUEzSHORTERzU+aNK+aS+aUmNUMBERFIFTYuVEsONEvHUNDRED",
    "vTHOUSANDsTENmSMALLLETTERAyAyKyMByNDxCLOSEExEyByCzHzSyDyEyFyGzYyHyJyKyLzYyMzPyNzCzT+aSHAPEDSIGNzYyPyRySzZyTzYy",
    "VyZzSxIyIxNIKOLSBURGOE+hUExOyEEyOxRUDIMENTAOE+gUExSHORTERxUyNKySyUdITALICLETTERApBEpCHEpDEpEqFqKSqLqMqNqRrSqSr",
    "HrSpHEpIqIpKAqEqHEqUpNORTHERNTSEpOpPEqHEpSHEqOUTHERNTSEpTEqHEpUqUpVEpYEpZEjNUMERALFIFTYsVEqONEqTENdKEYdNORTHAR",
    "ABIANLETTERAINwLEFvBEHvDADxLvES1x2x3vFEHvGEEMwHAINvHAHwEHvKAFwHAHvLAMvMEEMvNOONvQAFvREHvSADvTAHwEHwHALxEHvWAWv",
    "YEHvZAHxINpNUMBERONEvTENwWENTYdPERMICLETTERANpBURpCHERYpDOIqZHOIrITApEqFpGAIpHApIqAqEpKOKEpLEIpMENOEpNENOEpOqO",
    "pPEEIpREIpSHCHOOIrOOIqIIpTAIqSIUpUpVERqOOIpYArTqERsIsUqRYqUpZATAqHOIgSIANNUMBERHUNDREDqONEqTENrWENTYsOkSIGNApU",
    "RAMAZDAAy2yHAoBAqGApUUMISHoCAoDAqHYAAUSHx2pIpUoFAoGApUoHAoIoJApIoKApUoLAoMApIpUoNApUoPAoRApUoSApHApSAoTApHApUo",
    "UoVApIoXApSHAAYATHIYAoYAoZAkWORDDIVIDERhONALCOMPUTERdSOGDIANFRACTIONONEHALFkLETTERALEPHsTERNATEAYINrYINqBETHqF",
    "INALALEPHvBETHvHEvNUNyWITHVERTICALTAILvSADHE+aWITHVERTICALTAILvTAWyWITHVERTICALTAILqGIMELqHEsTHqKAPHqLAMEDHqME",
    "MqNUNqPEqRESHAYINDALETHqSADHEsMEKHrHINqTAWqWAWqYODHqZAYINlIGATUREAYINDALETHkNUMBERFIVErOURqONEtHUNDREDqTENrHIR",
    "TYsREErWENTYsOfUTHARABIANLETTERALEFwYNvBETHvDALETHwHADHEyLETHvFEvGHAYNwIMELvHExTHvKAPHwHETHvLAMEDHvMEMvNUNvQOP",
    "HvRESHvSADHExMEKHxTwHINvTAWwETHwHAWxETHvWAWvYODHvZAYNpNUMBERFIFTYvONEsERICINDICATORdTURKICLETTERORKHONAwBwDwEB",
    "xDxGxKxLxNxRxSxTxYwGwLwNwQwRwSxHwTwYvBASHvECwLTwMwNCxGxTxYwPwSHwZvIwCwQvOwExKwPwQwTpYENISEIAxBxDxEyByGyKyNzGyT",
    "yYxGxLxNGxQxRxSHxTxYwExCxNCyTyYxSHxZwIxQwOEyKxQdUYGHURCOMBININGDOTABOVEvBELOWsTWODOTSABOVEzBELOWjLETTERALEPHpB",
    "ETHpFINALHETHpGIMELHETHpKAPHpLAMEDHqESHpMEMpNUNpPEpRESHpSADHErMEKHqHINpTAWpWAWpYODHpZAYINjPUNCTUATIONBARuFOURD",
    "OTSuTWOBARSxDOTScIVEbMSYMBOLbNCOMINGAUTOMOBILEiBUSiFIREENGINEiPOLICECARiTAXIcEBUTTONMOUSEdDOTLEADERgOVERTWODOT",
    "SPUNCTUATIONdPIECESWIMSUITcIONcWITHEXCLAMATIONMARKWITHLEFTRIGHTARROWABOVEbPENBOOKgXeCENTREASTERISKkBLACKSTARkC",
    "ROSSkTEARDROPSPOKEDASTERISKfIRCUITOUTPUTHTYPESYMBOLrLTYPESYMBOLeFILEFOLDERfOLDEReHANDSSIGNeLOCKeMAILBOXWITHLOW",
    "EREDFLAGpRAISEDFLAGeOUTLINEDRIGHTWARDSARROWeSUBSETgPERSETdRATINGSYSTEMCOMMANDcHIUCHUScPOSITIONcTICALDISClICONe",
    "ONKEYbRANGEBOOKgHEARTfUTANcCUScIGINALOFdYAAILENGTHMARKgULENGTHMARKfDIGITEIGHTkFIVElOURkNINEkONEkSEVENlIXkTHREE",
    "lWOkZEROfFRACTIONONEEIGHTHqHALFqQUARTERqSIXTEENTHnTHREEQUARTERSsSIXTEENTHSfISSHARfLETTERAmAmImUlBAmHAlCAmHAlDA",
    "mDAnHAmHAlElGAmHAlHAlImIlJAmHAlKAmHAlLAmLAlMAlNAmGAmNAmYAlOlPAmHAlRAmHAmRAlSAmHAmSAlTAmHAmTAnHAlUmUlVAmOCALICL",
    "tLsRtRlWAlYAmYAfSIGNANUSVARAkVAGRAHAjCANDRABINDUjNUKTAjOVERLINEjVIRAMAlSARGAfVOWELSIGNAApIpUoEoIpIoOoUpUoVOCAL",
    "ICLwLvRwRcNATELEFTPARENTHESISgRIGHTPARENTHESIScTHODOXCROSScWITHDOTINSIDEbSAGECAPITALLETTERAtHtIuNsBRAsCHAsDHAs",
    "EtHCHAuKAuPAuTAvSAtINsGHAsHAtYAsIsKAtHAtYAsLAsMAsNAsOtINsPAsSAtHAsTAtSAuHAsUsWAsZAtHAfSMALLLETTERArHrIsNqBRAqC",
    "HAqDHAqErHCHAsKAsPAsTAtSArINqGHAqHArYAqIqKArHArYAqLAqMAqNAqOrINqPAqSArHAqTArSAsHAqUqWAqZArHAcCcMANYADIGITEIGHT",
    "mFIVEnOURmNINEmONEmSEVENnIXmTHREEnWOmZEROhLETTERAoAoLEFnBAnCAYNnDEELoHAnEoEnFAnGAnHAnInJAnKAAFoHAnLAANnMIINnNU",
    "UNnOoOnQAAFnRAnSAoHIINnTAnUnWAWnXAnYAbTTERdOMANSIYAQALTERNATENUMBEREIGHT+bFIVE+cOUR+fHUNDRED+bNINE+bSEVEN+cIX+",
    "eHUNDRED+bTEN+eTHOUSAND+cHREE+cWO+eTHOUSANDmFRACTIONONEHALFxSIXTHmMARRATANmNUMBEREIGHTxHUNDREDxTHOUSANDxYyTHOU",
    "SANDsFIFTYxTHOUSANDuVEwHUNDREDwTHOUSANDtORTYxTHOUSANDuURwHUNDREDwTHOUSANDsNINEwHUNDREDwTHOUSANDxYyTHOUSANDsONE",
    "vHUNDREDvTHOUSANDsSEVENxHUNDREDxTHOUSANDyYzTHOUSANDtIXvHUNDREDvTHOUSANDwYxTHOUSANDsTENvTHOUSANDtHIRTYyTHOUSAND",
    "uREExHUNDREDxTHOUSANDtWENTYyTHOUSANDuOvHUNDREDvTHOUSANDbUNCESIGNcTBOXTRAYdLINEDBLACKSTARiGREEKCROSSiLATINCROSS",
    "iWHITESTARbVERHEATEDFACEeLAPhPINGBLACKSQUARESlWHITEANDBLACKSQUARESqSQUARESfINEbWLbXbYSTER"]

/-- The names that start with P. -/
def namesP : List String :=
  ["aPACKAGEcDdDINGCHARACTERcGEeFACINGUPeReSeWITHCIRCLEDTEXTjURLdODAcHAWHHMONGCLANSIGNFAJtHAMvWJtKHABuOOuWMtLAUJuI",
    "StMUAStPHABtTHOJuSABvHEEJvWBtVAJuWJtXYOOJtYAJuEEGmONSONANTAUuCAUvHAUuHAUvLAUvNAUuLAUuMAUuNAUvCHAUvKAUvLAUvTHAU",
    "wSAUuPLHAUuQHAUuRAUuVAUuXAUuYAUlDIGITEIGHTqFIVErOURqNINEqONEqSEVENrIXqTHREErWOqZEROlMARKCIMHOMsKEStHAVsSOtUAMs",
    "TAUMtUBlNUMBERHUNDREDMILLIONSySrMILLIONSrTENBILLIONSuSuTHOUSANDSsRILLIONSlSIGNAVpCIMCHEEMtUAMTSHOOJsHAISLUSNTO",
    "GNTOGsNRESTOSsPUBDAWBsTSOVROGtXWVwCHWVpHLIqNUBpIBYAMpLOSpMEEJSUABtTSEEBqUSpNQIGqTUJpTAUqHIRDSTAGEHLIqXHEEJCEEV",
    "pVOSFEEMsLUBsNRUAsSEEVsTHIABuOMtSHABCEEBpXAUSqIABqYEEMFAIBuNTXIVuRHOuTOVrOOpZWJTHAJlVOWELKAABtVsBsIBtVsUBtVsVs",
    "WBtVrEBsEBtVsVrIABtVsBsVrOBsOBtVsVrUABtVsBsVrWBsVcLLASdMBRANCHeDOWNHANDeSUPTOGETHEReTREEeUPHANDeYRENELEFTPOINT",
    "INGFLEURONlTTERALEPHqYINpBETHpDALETHpFINALNUNpGIMELpHErTHpKAPHpLAMEDHpMEMpNUNpPEpQOPHpRESHpSADHErMEKHqHINpTAWq",
    "ETHpWAWpYODHpZAYINjNUMBERFIVEqOURpONEpTENqHREEqWENTYrOjRIGHTPOINTINGFLEURONcNCAKESdDAFACEcPERCLIPcRACHUTEeGRAP",
    "HOSjSEPARATORjUSMARKeLLELTOiWITHHORIZONTALSTROKEmTILDEOPERATORdENTHESIZEDDIGITEIGHTsFIVEtOURsNINEsONEsSEVENtIX",
    "sTHREEtWOnHANGULCHIEUCH+aAuIEUCyAyUtHIEUHyAtIEUNGyAtKHIEUKH+aAuIYEOKzAtMIEUMyAtNIEUNyAtPHIEUPH+aAuIEUPyAtRIEUL",
    "yAtSIOSxAtTHIEUTH+aAuIKEUTzAnIDEOGRAPHALLIANCEwCALLxONGRATULATIONwEARTHxIGHTxNTERPRISEwFESTIVALxINANCIALyREyVE",
    "xOURwHAVEwLABORwMETALxOONwNAMExINEwONEwREACHyPRESENTySOURCEzTwSELFyVENxIXxOCIETYxPECIALxTOCKyUDYxUNyPERVISEwTE",
    "NxHREExWOwWATERxOODnKOREANCHARACTEROHU+dJEONnLATINCAPITALLETTERA+fB+fC+fD+fE+fF+fG+fH+fI+fJ+fK+fL+fM+fN+fO+fP+",
    "fQ+fR+fS+fT+fU+fV+fW+fX+fY+fZsSMALLLETTERA+dB+dC+dD+dE+dF+dG+dH+dI+dJ+dK+dL+dM+dN+dO+dP+dQ+dR+dS+dT+dU+dV+dW+d",
    "X+dY+dZnNUMBEREIGHTEENuLEVENtFIFTEENuOURTEENtNINETEENtSEVENTEENuIXTEENtTENuHIRTEENuWELVEwNTYdROTdTALTERNATIONM",
    "ARKeIALDIFFERENTIALhLINEBACKWARDlDOWNlFORWARDlUPiYRECYCLEDPAPERSYMBOLeNERSHIPSIGNeYPOPPERcSSEDSYMBOLfNGERSHIPe",
    "IVEPULLDOWNOUTPUTSYMBOLlUPOUTPUTSYMBOLePORTCONTROLcUCINHAUGLOTTALSTOPuFINALuVARIANTjLETTERApBApCAqHApDApEpFAqI",
    "NALKuLuMuNvGuPuTuWuYpGApHApIqApKAqHApLApMApNAqGApOpPAqHApRApSApTAqHApUqApVApZAkOWFALLINGTONExFINALxLONG+bFINAL",
    "jMIDLEVELTONEvFINALvLONGFINALjRISINGTONEtFINALtLONGxFINALjSANDHIGLOTTALSTOP+aFINALpTONEtFINALtLONGxFINALcWPRIN",
    "TSbDFcIbEACESYMBOLeHeOCKdNUTSdPODdRcDESTRIANcNCILdGUINdOVERSTAMPEDENVELOPEdSIVEFACEdTAGRAMcOPLEHUGGINGcRCENTSI",
    "GNdFORMINGARTSdMANENTPAPERSIGNeILLESIGNdPENDICULARnWITHSdSEVERINGFACEeIGNeONALCOMPUTERgBOWINGDEEPLYgCLIMBINGgD",
    "OINGCARTWHEELgFROWNINGgINLOTUSPOSITIONiSTEAMYROOMgRAISINGBOTHHANDSINCELEBRATIONgWITHBALLlLONDHAIRkCROWNkFOLDED",
    "HANDSkHEADSCARFkPOUTINGFACEePECTIVEdTENTHOUSANDSIGNcSETASIGNdOSIGNcTRIDISHbHAGSPADOUBLEHEADMARKhLETTERAoLTERNA",
    "TEYAoSPIRATEDFAnBAnCApNDRABINDUoHAnDAoDAoZAnEoEnFAnGAoGAnHAnInJAnKAoHAnLAnMAnNAoGAoNAoYAnOnPAoHAnQAnRAnSAoHAoM",
    "ALLAnTAoHAoSApHAoTApHAnUnVOICEDHAsLESSSHAnWAnXAnYAnZAoHAhMARKDOUBLESHADlSHADhSINGLEHEADMARKiUBJOINEDLETTERRAwW",
    "AwYAjPERFIXEDLETTERRAdISTOSDISCSIGNARROWqBEEtHIVErOOMERANGsWrULLSLEGqCAPTIVEsRPENTRYPLANEsTrHILDrLUBrOLUMNsMBu",
    "ININGOBLIQUESTROKEqDOLIUMsVEqEAGLEqFLUTEqGAUNTLETrRATERqHELMETrIDErORNqLIDsLYqMANACLESsTTOCKqOXBACKqPAPYRUSrED",
    "ESTRIANrLANETREEsUMEDHEADqRAMrOSETTEqSAWrHIELDtPrLINGrMALLAXErTRAINERqTATTOOEDHEADrIARArUNNYqVINEqWAVYBANDrOMA",
    "NcILIPPINEDOUBLEPUNCTUATIONkSINGLEPUNCTUATIONcOENICIANLETTERAINrLFqBETqDELTqGAMLqHEsTqKAFqLAMDqMEMqNUNqPEqQOFq",
    "ROSHqSADErEMKrHINqTAUrETqWAUqYODqZAIkNUMBERONEtHUNDREDqTENrHREErWENTYsOkWORDSEPARATORdLUSbICKeUPTRUCKcEcGdFACE",
    "dNOSEcLCROWSIGNdEOFPOOdLcNATAdCHEDFINGERSfINGHANDdEAPPLEeDECORATIONdKHEARTdWHEELSTARcSCESdTOLcTCHFORKjWITHTEET",
    "OPbLACARDeEOFINTERESTSIGNhWORSHIPdNCKCONSTANToOVERTWOPIdYGROUNDSLIDEeINGCARDACEOFCLUBSqDIAMONDSqHEARTSqSPADESl",
    "BACKmLACKJOKERlEIGHTOFCLUBSsDIAMONDSsHEARTSsSPADESlFIVEOFCLUBSrDIAMONDSrHEARTSrSPADESmOOLnUROFCLUBSrDIAMONDSrH",
    "EARTSrSPADESlJACKOFCLUBSrDIAMONDSrHEARTSrSPADESlKINGOFCLUBSrDIAMONDSrHEARTSrSPADESmNIGHTOFCLUBStDIAMONDStHEART",
    "StSPADESlNINEOFCLUBSrDIAMONDSrHEARTSrSPADESlQUEENOFCLUBSsDIAMONDSsHEARTSsSPADESlREDJOKERlSEVENOFCLUBSsDIAMONDS",
    "sHEARTSsSPADESmIXOFCLUBSqDIAMONDSqHEARTSqSPADESlTENOFCLUBSqDIAMONDSqHEARTSqSPADESmHREEOFCLUBSsDIAMONDSsHEARTSs",
    "SPADESmRUMP1r0r1r2r3r4r5r6r7r8r9q2r0r1q3q4q5q6q7q8q9mWOOFCLUBSqDIAMONDSqHEARTSqSPADESlWHITEJOKERcDcUdNGERdSMIN",
    "USSIGNeSIGNiABOVEEQUALSSIGNiINLEFTHALFCIRCLEkRIGHTHALFCIRCLEkTRIANGLEiWITHBLACKTRIANGLEmCIRCUMFLEXACCENTABOVEm",
    "DOTBELOWmSMALLCIRCLEABOVEnUBSCRIPTTWOmTILDEABOVErBELOWdTOfFORMFIVEkOURjTHREEkWObMbOCKETCALCULATORcLICECARjSREV",
    "OLVINGLIGHTgOFFICERcODLEcPCORNdDIRECTIONALFORMATTINGoISOLATEcRTABLESTEREOcSEIDONdITIONINDICATORdTALHORNgMARKkF",
    "ACEeBOXcTABLEWATERSYMBOLeTOdOFFOODdTEDPLANTcUCHdLTRYLEGdNDSIGNdRINGLIQUIDdTINGCATFACEhFACEcWERONOFFSYMBOLhSYMB",
    "OLfSLEEPSYMBOLgYMBOLbRAYERBEADScECEDESiABOVEALMOSTEQUALTOnEQUALSSIGNnNOTALMOSTEQUALTOqEQUALTOnSINGLELINEEQUALS",
    "SIGNxNOTEQUALTOiBUTNOTEQUIVALENTTOiOREQUALTOnIVALENTTOiUNDERRELATIONdGNANTMANiPERSONiWOMANdSCRIPTIONTAKEeENTAT",
    "IONFORMFORVERTICALCOLON+dMMA+bEMDASH+cNDASH+cXCLAMATIONMARK+bHORIZONTALELLIPSIS+bIDEOGRAPHICCOMMA+mFULLSTOP+bL",
    "EFTANGLEBRACKET+fBLACKLENTICULARBRACKET+fCORNERBRACKET+gURLYBRACKET+fDOUBLEANGLEBRACKET+fPARENTHESIS+fSQUAREBR",
    "ACKET+fTORTOISESHELLBRACKET+fWHITECORNERBRACKET+kLENTICULARBRACKET+cOWLINE+bQUESTIONMARK+bRIGHTANGLEBRACKET+gB",
    "LACKLENTICULARBRACKET+gCORNERBRACKET+hURLYBRACKET+gDOUBLEANGLEBRACKET+gPARENTHESIS+gSQUAREBRACKET+gTORTOISESHE",
    "LLBRACKET+gWHITECORNERBRACKET+lLENTICULARBRACKET+yKCET+bSEMICOLON+bTWODOTLEADER+bWAVYLOWLINEdTZELdVIOUSPAGEcIM",
    "EdNCEgSSeTERhICONfSCREENSYMBOLdVACYMESSAGEfTEUSE1k2kONEkTWOcOBINGCANEdHIBITEDSIGNdJECTIVEdPERTYLINEeORTIONkALT",
    "OdSERPINAbSALTERPAHLAVIFOURDOTSWITHCROSS+aDOToLETTERALEPHuBETHuDALETHuGIMELuHEwTHuKAPHuLAMEDHuMEMQOPHuNUNuPEuS",
    "ADHEwMEKHvHINuTAWuWAWAYINRESHuYODHuZAYINoNUMBERFOURuONExHUNDREDuTENvHREEvWENTYwOoSECTIONMARKoTURNEDSECTIONMARK",
    "bU1c2cBLICADDRESSLOUDSPEAKERcNCTUATIONSPACEgSELEVATUSMARKcRPLEHEARTdSEcSHPINcTLITTERINITSPLACESYMBOL"]

/-- The names that start with Q. -/
def namesQ : List String :=
  ["aQUADRANTLOWERLEFTnRIGHTiUPPERLEFTrANDLOWERLEFTANDLOWERRIGHTzRIGHTuUPPERRIGHTANDLOWERLEFT+mRIGHTnRIGHTsANDLOWE",
    "RLEFT+eANDLOWERRIGHTfUPLEINTEGRALOPERATORjPRIMEdOARdRTERNOTEdTERNIONINTEGRALOPERATORcESTIONEDEQUALTOjXCLAMATIO",
    "NMARKiMARKcINCUNXcOTATIONMARK"]

/-- The names that start with R. -/
def namesR : List String :=
  ["aRABBITgFACEcCCOONdINGCARgMOTORCYCLEcDICALSYMBOLBOTTOMeOfACTIVESIGNfBUTTONcILWAYCARhTRACKdNeBOWdSEDBACKOFHANDg",
    "COMMAgDOTjTEDINTERPOLATIONMARKERgFISTgHANDkWITHFINGERSSPLAYEDoPARTBETWEENMIDDLEANDRINGFINGERSgINTERPOLATIONMAR",
    "KERgMCSIGNhDSIGNhRSIGNgSQUAREcMcTdIOcZORbECEIPTdORDSEPARATORdREATIONALVEHICLEdYCLEDPAPERSYMBOLgINGSYMBOLFORGEN",
    "ERICMATERIALSsTYPE1PLASTICSw2PLASTICSw3PLASTICSw4PLASTICSw5PLASTICSw6PLASTICSw7PLASTICScDAPPLEdGIFTENVELOPEcFE",
    "RENCEMARKcGIONALINDICATORSYMBOLLETTERA+dB+dC+dD+dE+dF+dG+dH+dI+dJ+dK+dL+dM+dN+dO+dP+dQ+dR+dS+dT+dU+dV+dW+dX+dY",
    "+dZeSTEREDSIGNcJANGCONSONANTSIGNHtNuGtRgLETTERAmBAmCAmDAmGAmHAmJAmKAmLAmMAnBAmNAnDAnGAoGAnYAoJAmPAmRAmSAmTAmWA",
    "mYAgSECTIONMARKgVIRAMAhOWELSIGNAIqUpEqAqUpIpOpUcLIEVEDFACEcMINDERRIBBONcPLACEMENTCHARACTERcSPONSEdTRICTEDLEFTE",
    "NTRY1t2fOOMcTURNLEFTgRIGHTgSYMBOLcVERSECHECKERBOARDhDANGLEnWITHUNDERBARiCOMMAiDOUBLEPRIMEtQUOTATIONMARKoSTROKE",
    "NOTSIGNiEMPTYSETiFORKEDPARAGRAPHOSiHANDWITHMIDDLEFINGEREXTENDEDiNOTSIGNiPILCROWSIGNjRIMEiQUESTIONMARKiRAISEDHA",
    "NDWITHFINGERSSPLAYEDjIGHTANGLEjOTATEDFLORALHEARTBULLETiSANSSERIFCAPITALLjEMICOLONiTHUMBSDOWNSIGNoUPSIGNjILDEnE",
    "QUALSjRIPLEPRIMEiVICTORYHANDhINDEXhLIGHTFOURPOINTEDPINWHEELSTARjNEFEEDhSOLIDUSoOPERATORoPRECEDINGSUBSEToWITHHO",
    "RIZONTALSTROKEhTILDEOPERATORABOVELEFTWARDSARROWzRIGHTWARDSARROWdOLVINGHEARTSbHINOCEROSbIcALSIGNcBBONgARROWDOWN",
    "LEFTpRIGHTlLEFTDOWNpUPlRIGHTDOWNqUPlUPLEFTnRIGHTcCEBALLeCRACKERcFLEcGHTANDLOWERONEEIGHTHBLOCKiUPPERONEEIGHTHBL",
    "OCKhGERBUBBLEiLEkBRACKETrWITHDOTkDOTTEDSUBSTITUTIONMARKERkSUBSTITUTIONMARKERkVARIANTWITHSQUAREkWITHARCoDOWNWAR",
    "DSZIGZAGARROWgRCGREATERTHANBRACKEThROWWITHCIRCLEDPLUSoSMALLCIRCLEfBLACKLENTICULARBRACKETkTORTOISESHELLBRACKETf",
    "CEILINGgORNERBRACKETgURLYBRACKETrLOWERHOOKrMIDDLEPIECErUPPERHOOKfDOTTEDSUBSTITUTIONBRACKEThUBLEANGLEBRACKETmRR",
    "OWWITHROUNDEDHEADlPARENTHESISlQUOTATIONMARKlWIGGLYFENCEfFACINGARMENIANETERNITYSIGNlFISTlSVASTISIGNvWITHDOTSgIS",
    "HTAILhVEEIGHTHSBLOCKgLOORfHALFBLACKCIRCLEoSTARlOCKjFOLDERjMEDIUMSHADEjRUNNINGMANhNDEDINTERLACEDPENTAGRAMjINTER",
    "IORPRODUCTjTELEPHONERECEIVERfLOWPARAPHRASEBRACKETfNORMALFACTORSEMIDIRECTPRODUCTfONEEIGHTHBLOCKiQUARTERBLOCKgPE",
    "NSQUAREDDOTgUTERJOINfPARENTHESISqEXTENSIONqLOWERHOOKqUPPERHOOKgOINTINGANGLEBRACKETnCURVEDANGLEBRACKETnDOUBLEAN",
    "GLEQUOTATIONMARKnMAGNIFYINGGLASSfRAISEDOMISSIONBRACKETfSEMIDIRECTPRODUCThVENEIGHTHSBLOCKgHADEDWHITERIGHTWARDSA",
    "RROWgIDEARCCLOCKWISEARROWjWAYSUBRACKEThNGLEQUOTATIONMARKgPEAKERmWITHONESOUNDWAVEqTHREESOUNDWAVESiECHBUBBLEgQUA",
    "REBRACKETsEXTENSIONsLOWERCORNERsUPPERCORNERsWITHDOUBLESTROKEwQUILLwSTROKEwTICKINBOTTOMCORNER+cTOPCORNERwUNDERB",
    "ARgSHAPEDBAGDELIMITERgUBSTITUTIONBRACKETfTACKgHIRDWHITERIGHTPOINTINGINDEXhOUGHTBUBBLEhREEEIGHTHSBLOCKkQUARTERS",
    "BLOCKgOLEFTEMBEDDINGlISOLATElMARKlOVERRIDEhRTOISESHELLBRACKETgRANSPOSITIONBRACKEThIANGLEnABOVELEFTTRIANGLElULA",
    "RONEQUARTERBLOCKfVERTICALBARWITHQUILLoOXLINEfWARDSARROWpABOVEALMOSTEQUALTOuREVERSEALMOSTEQUALTO+bTILDEOPERATOR",
    "uSHORTLEFTWARDSARROWuTILDEOPERATORqNDUPPERANDLOWERONEEIGHTHBLOCKpFROMBARwTOBLACKDIAMONDpOVERLEFTWARDSARROWpTAI",
    "LqHROUGHGREATERTHANwSUPERSETwXqOBARsLACKDIAMONDpWITHCORNERDOWNWARDStDOTTEDSTEMvUBLEVERTICALSTROKEtEQUILATERALA",
    "RROWHEADtHOOKtLARGETRIANGLEARROWHEADuOOPtMEDIUMTRIANGLEARROWHEADtNOTCHEDTAILtPLUSBELOWtSMALLEQUILATERALARROWHE",
    "ADyTRIANGLEARROWHEADuTROKEtTAILxWITHDOUBLEVERTICALSTROKE+bVERTICALSTROKEuIPDOWNWARDSwUPWARDStVERTICALSTROKEkBA",
    "CKTILTEDSHADOWEDWHITEARROWlLACKARROWpCIRCLEDWHITEARROWlOTTOMSHADEDWHITEARROWkCOMPRESSEDARROWkDASHEDARROWlOUBLE",
    "ARROWvFROMBARvTAILvWITHSTROKEzVERTICALSTROKEqDASHARROWkFINGERPOSTARROWlRONTTILTEDSHADOWEDWHITEARROWkHANDmRPOON",
    "OVERLEFTWARDSHARPOONrWITHBARBDOWNABOVELEFTWARDSHARPOONWITHBARBDOWN+dBELOWLONGDASH+dFROMBAR+dTOBAR+dWARDSzUPABO",
    "VELEFTWARDSHARPOONWITHBARBUP+hONGDASH+gRIGHTWARDSHARPOONWITHBARBDOWN+bFROMBAR+bTOBAR+bWARDSlEAVYARROWpCOMPRESS",
    "EDARROWkLEFTSHADEDWHITEARROWkOPENHEADEDARROWkPAIREDARROWSlUSHINGHANDkQUADRUPLEARROWkRIGHTSHADEDWHITEARROWlOCKE",
    "TkSANSSERIFARROWlQUAREDARROWnIGGLEARROWkTOPSHADEDWHITEARROWlRIANGLEARROWHEADsHEADEDARROW+dOVERLEFTWARDSTRIANGL",
    "EHEADEDARROW+dTOBAR+dWITHBOLDSHAFT+hDOUBLEHORIZONTALSTROKE+nVERTICALSTROKE+hHEAVYSHAFT+hLONGTIPDOWNWARDS+oUPWA",
    "RDS+hMEDIUMSHAFT+hNARROWSHAFT+hVERYHEAVYSHAFTyDASHEDARROWyPAIREDARROWSnPLEARROWqDASHARROWlWOHEADEDARROWyFROMBA",
    "RyWITHDOUBLEVERTICALSTROKE+cTAIL+gWITHDOUBLEVERTICALSTROKE+kVERTICALSTROKE+dRIANGLEARROWHEADS+cVERTICALSTROKEt",
    "TRIPLEDASHARROWkWAVEARROWlHITEARROWuFROMWALLuWITHINTRIANGLEARROWHEADgHITECORNERBRACKETlURLYBRACKETkLENTICULARB",
    "RACKETkPARENTHESISkSQUAREBRACKETkTORTOISESHELLBRACKETgIGGLYFENCEcNGeABOVEeBUOYeEDPLANETfQUALTOeINEQUALTOgGBELL",
    "eOPERATORePOINTcSINGDIAGONALCROSSINGFALLINGDIAGONALwSOUTHEASTARROWbLEcIcMcObOASTEDSWEETPOTATOcBOTFACEcCKeETcLL",
    "EDUPNEWSPAPERfRCOASTERgSKATEeINGONTHEFLOORLAUGHINGeOFPAPERcMANASSIGNfCENTURIALSIGNfDENARIUSSIGNgIMIDIASEXTULAS",
    "IGNgUPONDIUSSIGNfNUMERALEIGHTnLEVENmFIFTYrEARLYFORMrTHOUSANDoVEqHUNDREDqTHOUSANDnOURmNINEmONEpHUNDREDwTHOUSAND",
    "pTHOUSANDxCDmREVERSEDONEHUNDREDmSEVENnIXpLATEFORMmTENpTHOUSANDnHREEnWELVEoOfQUINARIUSSIGNfSEMUNCIASIGNhSTERTIU",
    "SSIGNhXTANSSIGNjULASIGNgILIQUASIGNfUNCIASIGNcOSTERcSEeTTEcTATEDCAPITALQhFLORALHEARTBULLEThHEAVYBLACKHEARTBULLE",
    "ThLIGHTFOURPOINTEDBLACKCUSPhWHITEFOURPOINTEDCUSPcUNDEDSYMBOLFORCAIqFUqLUqSHOUsUANGXIqXIfPUSHPINfTARGETcWBOATbS",
    "bUBLESIGNcGBYFOOTBALLcLEDELAYEDcMIDIGITEIGHTjFIVEkOURjNINEjONEjSEVENkIXjTHREEkWOeFRACTIONONEHALFpQUARTERpTHIRD",
    "mTWOTHIRDSeNUMBEREIGHTHUNDREDpYkFIFTYmVEHUNDREDlORTYmURHUNDREDkNINEHUNDREDoTYkONEHUNDREDkSEVENHUNDREDpTYlIXHUN",
    "DREDnTYkTENlHIRTYmREEHUNDREDlWENTYmOHUNDREDcNICARLAUGSYMBOLfBELGTHORSYMBOLfCROSSPUNCTUATIONfLETTERACAmESCmLGIZ",
    "EOLHXmNSUZAlBERKANANBEORCBJARKANBlCmALCmEALCnNmWEORTHlDmAGAZDAEGDmOTTEDLrNrPlEmARmHWAZEHEmNGmTHlFEHUFEOHFEFmRA",
    "NKSCASKETACyESCxEHxISxOSlGmARmEBOGYFUGnRlHAEGLHnGLAZHlICELANDICYRmNGoWAZmORmSAZISISSImWAZEOHlJERANJlKmAUNApKlL",
    "AUKAZLAGULOGRLmONGBRANCHARAEvHAGALLHvMADRMvOSSOvYRlMANNAZMANMlNAUDIZNYDNAUDNlOmEmNmOmPENPmSOmTHALANETHELOlPERT",
    "HOPEORTHPlQlRAIDORADREIDRlSHnORTTWIGARAuBJARKANBuHAGALLHuMADRMuNAUDNuOSSOuSOLSuTYRTuYRmIGELLONGBRANCHSOLSmOWIL",
    "OSmTANlTHURISAZTHURSTHORNmIWAZTIRTYRTlURUZURUlVlWmUNJOWYNNWlXlYmRlZfMULTIPLEPUNCTUATIONfSINGLEPUNCTUATIONfTVIM",
    "ADURSYMBOLdNEReINGSHIRTWITHSASHcPEESIGNcSSIANASTROLOGICALSYMBOLBINOVILEzNOVILEzQUINTILEzSENTAGONzTREDECILEzVIG",
    "INTILE"]

/-- The names that start with S. -/
def namesS : List String :=
  ["aSAFETYPINgVESTcGITTARIUScILBOATcKEBOTTLEANDCUPcLTIREeSHAKERdUTINGFACEcMARITANABBREVIATIONMARKjLETTERALAFpBAAq",
    "ITpDALATpFIpGAMANpINqTqYpKAAFpLABATpMIMpNUNpQUFpRISHpSHANqINGAATpTAAFqITqSAADIYpYUTpZENjMARKDAGESHnEPENTHETICY",
    "UTnINpALAFnNEQUDAAnOCCLUSIONkODIFIERLETTEREPENTHETICYUTxIxSHORTAjPUNCTUATIONAFSAAQvNGEDwNAAUvRKAANUvTMAAUuBAUu",
    "MELODICQITSAuNEQUDAAuQITSAuSHIYYAALAAvOFMASHFAATuTURUuZAEFvIQAAjVOWELSIGNAtAsEsIsLONGAxAwEwIwUsOtVERLONGA+bAsS",
    "HORTAtUKUNsUcNDWICHdSSERIFHEAVYDOUBLECOMMAQUOTATIONMARKORNAMENTuTURNEDCOMMAQUOTATIONMARKORNAMENToLOWDOUBLECOMM",
    "AQUOTATIONMARKORNAMENTjINTERROBANGORNAMENTcRIcTELLITEjANTENNAdURNcURASHTRACONSONANTSIGNHAARUkDANDAlIGITEIGHTpF",
    "IVEqOURpNINEpONEpSEVENqIXpTHREEqWOpZEROlOUBLEDANDAkLETTERArArIrUqBArHAqCArHAqDArDAsHArHAqErEqGArHAqHAqIrIqJArH",
    "AqKArHAqLArLAqMAqNArGArNArYAqOrOqPArHAqRAqSArHArSAqTArHArTAsHAqUrUqVArOCALICLyLxRyRqYAkSIGNANUSVARAoCANDRABIND",
    "UoVIRAMAqSARGAkVOWELSIGNAAuIuUtEuEtIuItOuOtUuUtVOCALICL+bL+aR+bReOPODcXOPHONEbCALESdRFcHOOLgSATCHELcIcOOTERdRP",
    "IONgUScREENeWDRIVERdIPTCAPITALBnEnFnHnInLnMnPnRgLIGATUREETORNAMENTgSMALLElGlLlOdOLLdUPLEbEALdTcCONDPLACEMEDALd",
    "TIONSIGNeORcDNAcEDLINGdNOEVILMONKEYcGMENThEDDIGITEIGHToFIVEpOURoNINEoONEoSEVENpIXoTHREEpWOoZEROcLFIEcMICOLONeD",
    "IRECTPRODUCTWITHBOTTOMCLOSEDeSEXTILEcPARATEDSYMBOLcRIOUSFACEWITHSYMBOLSCOVERINGMOUTHdVICEMARKcSAMEDOTdQUIQUADR",
    "ATEcTMINUSdTRANSMITSTATEcWINGNEEDLEcXTILEbGCbHADOWEDWHITECIRCLEnLATINCROSSnSTARdKINGFACEdLLOWPANOFFOODdMROCKdR",
    "ADAABBREVIATIONSIGNhCONTINUATIONSIGNhDANDAiIGITEIGHTmFIVEnOURmNINEmONEmSEVENnIXmTHREEnWOmZEROiOUBLEDANDAhEKAMi",
    "XTRASHORTVOWELMARKhHEADSTROKEhLETTERAoAoIoUnBAoHAnCAoHAnDAoDApHAoHAnEnGAoHAnHAnIoInJAoHAnKAoHAnLAoLAnMAnNAoGAo",
    "NAoYAnOnPAoHAnRAnSAoHAoSAnTAoHAoTApHAnUoUnVAoOCALICLvLuRvRnYAhOMhSANDHIMARKiECTIONMARK1s2jPARATORiIGNANUSVARAm",
    "VAGRAHAlCANDRABINDUlINVERTEDCANDRABINDUlJIHVAMULIYAlNUKTAlSIDDHAMlUPADHMANIYAlVIRAMAnSARGAiUTRAMARKhVOWELMODIF",
    "IERMARKmSIGNAArIrUqEqIrIqOqPRISHTHAMATRAEqUrUqVOCALICLyLxRyReKdVEDICEeIANLETTERADOoGEoHoIRoREpRAYoSHoWEnBIBnCH",
    "URCHnDEADnEARpToGGoRRnFEEnGAGnHAHAoUNGnIANoCEoFnJUDGEnKICKnLOLLnMEASUREoIMEnNUNnOAKoILoNoOZEoRoUTnPEEPnROARnSO",
    "oUREnTHEYpIGHoOTnUPnVOWnWOEpOLnYEApWnZOOcEEPcIELDdFTINfOUTdNTOSHRINEdPcOCKEDFACEWITHEXPLODINGHEADdOTINGSTARdPP",
    "INGBAGSiTROLLEYdRTBACKSLANTEDSOUTHARROWgENTARROWPOINTINGDOWNWARDSTHENNORTHEASTfCAKEfDOWNTACKnWITHOVERBARfHANDF",
    "ORMATCONTINUINGOVERLAPpDOWNSTEPpLETTEROVERLAPpUPSTEPfLEFTTACKfRIGHTWARDSARROWABOVELEFTWARDSARROWfSgLANTEDNORTH",
    "ARROWfUPTACKlABOVESHORTDOWNTACKlWITHUNDERBARdULDEREDOPENBOXdWERcRIMPdUGcUFFLEPRODUCTcYbIcDDHAMDANDAiOUBLEDANDA",
    "hENDOFTEXTMARKhLETTERAoAoIoLTERNATEUoUnBAoHAnCAoHAnDAoDApHAoHAnEnGAoHAnHAnIoInJAoHAnKAoHAnLAnMAnNAoGAoNAoYAnOn",
    "PAoHAnRAnSAoHAoSAnTAoHApREECIRCLEALTERNATEIoTApHAoWOCIRCLEALTERNATEI+gInUoUnVAoOCALICLvLuRvRnYAhREPETITIONMARK",
    "1v2v3hSECTIONMARKDOUBLERING+cWITHRAYSsWITHCIRCLESANDFOURENCLOSURES+gRAYS+gTWOENCLOSURESwDOUBLECRESCENTSwQUADRU",
    "PLECRESCENTSwRAYSANDDOTTEDCRESCENTS+jDOUBLECRESCENTS+jTRIPLECRESCENTSwSEPTUPLECRESCENTSwTRIDENTANDDOTTEDCRESCE",
    "NTS+gUSHAPEDORNAMENTSzPLECRESCENTSjPARATORBARqDOTiIGNANUSVARAlCANDRABINDUlNUKTAlSIDDHAMlVIRAMAnSARGAhVOWELSIGN",
    "AArIrLTERNATEU+aUrUqEqIrIqOqUrUqVOCALICRyRdEWAYSBLACKDOWNPOINTINGINDEXnLEFTPOINTINGINDEXnRIGHTPOINTINGINDEXnUP",
    "POINTINGINDEXiWHITEDOWNPOINTINGINDEXnLEFTPOINTINGINDEXnRIGHTPOINTINGINDEXnUPPOINTINGINDEXcGNOFTHEHORNSeWRITING",
    "AIRBLOWINGOUTsSMALLROTATIONSoSUCKINGINsSMALLROTATIONSlBREATHEXHALErINHALEnUSHBETWEENqMULTIPLEqSINGLElCHEEKSNEU",
    "TRALrPUFFEDrSUCKEDmOLONnMMAlDREAMYEYEBROWSDOWNNEUTRALzNEUTRALDOWN+gUPzUPNEUTRALmYNAMICARROWHEADLARGE+bSMALLsEV",
    "ERYOTHERTIMEsFASTsGRADUALsRELAXEDsSIMULTANEOUS+eALTERNATINGtLOWsTENSElEARSmXCITEMENTmYEBLINKMULTIPLEtSINGLEpRO",
    "WSSTRAIGHTDOWN+bNEUTRAL+bUPoGAZEFLOORPLANECURVED+cSTRAIGHT+kALTERNATING+kDOUBLEsWALLPLANECIRCLING+cURVED+bSTRA",
    "IGHT+jALTERNATING+jDOUBLEoLASHESDOWNuFLUTTERINGuUPoSCLOSEDpHALFCLOSEDtOPENpOPENpSQUEEZEDpWIDENINGMOVEMENTtOPEN",
    "oWINKlFACEDIRECTIONPOSITIONNOSEFORWARDTILTING+kUPORDOWN+sTILTINGmILLMODIFIER2x3x4x5x6nNGERmLICKLARGEMULTIPLEvS",
    "INGLEqSEQUENTIALrMALLMULTIPLEvSINGLEnOORPLANESHOULDERHIPMOVEmOREHEADCONTACTtNEUTRALtWRINKLEDmULLSTOPlGRASPBETW",
    "EENqMULTIPLEqSINGLElHAIRnNDANGLEuINDEXzMIDDLELITTLE+fRINGzRINGLITTLE+jOUTzTHUMB+eIN+eOUTuLITTLEINDEX+fTHUMBIND",
    "EXTHUMB+uOUT+aUPuMIDDLERINGLITTLE+kIN+kOUTuRINGDOWNMIDDLETHUMBINDEXCROSSyLITTLEpCIRCLEvINDEX+aBENT+aHINGE+aMID",
    "DLE+gCROSSED+lLITTLE+gLITTLE+gRING+gTHUMB+aRINGLITTLEvLITTLEINDEX+bUPvMIDDLERINGLITTLE+lBENT+bUPvRINGLITTLEqLA",
    "WtFOURFINGERSCONJOINEDtINDEXTHUMBCURVETHUMBINSIDEtMIDDLERINGLITTLECONJOINED+sSIDEtNOTHUMBtTHUMBFORWARDySIDEqUP",
    "sFIVEFINGERSSPREAD+jOPENsINDEXxRINGLITTLExTHUMB+cOPENsMIDDLERINGLITTLEsNOTHUMBsOPENwNOTHUMBwTHUMBFORWARD+bSIDE",
    "sTHUMBFORWARDxSIDErRLICUExINDEXRINGLITTLEONxMIDDLERINGLITTLEONxOPENpFISTtFOURFINGERSCONJOINEDBENTtHEELtINDEXyB",
    "ENT+cOVERMIDDLEyCUPPEDyHINGED+eLOW+eMIDDLEUP+mTHUMBSIDEyMIDDLE+eBENT+iTHUMBSTRAIGHT+eCONJOINED+nCUPPED+tTHUMBF",
    "ORWARD+nHINGED+tTHUMBSIDE+nINDEXBENT+nMIDDLEBENT+nTHUMBFORWARD+sSIDE+wBENT+wCONJOINED+fROSSED+lTHUMBSIDE+jLITT",
    "LE+eHINGED+kSPREADTHUMBSIDE+eLITTLE+eRAISEDKNUCKLES+fING+iBENT+iCONJOINED+eSTRAIGHTTHUMBBENT+eTHUMB+jANGLED+pO",
    "UT+jBENT+jCIRCLED+kONJOINEDHINGED+kUPPED+jHINGED+kOOKED+eUPSPREADTHUMBFORWARDyRAISEDKNUCKLEzINGLITTLEyTHUMBANG",
    "LEDINMIDDLEUP+jOUTMIDDLEUP+dCIRCLE+jDMIDDLEUP+eUPPEDMIDDLEUP+fRLICUE+gVETHUMBINSIDE+nUNDER+dFORWARDINDEXBENT+p",
    "STRAIGHT+dHOOK+hEDMIDDLEHINGED+pUP+dSIDE+hBOTHBENT+hINDEXBENT+mHINGE+hTHUMBBENT+mCONJOINED+mDIAGONALyUPMIDDLEH",
    "INGED+mTHUMBCONJOINED+rSIDEtLITTLEBENTzDOWN+dOTHERSCIRCLED+dRIPPLECURVED+jSTRAIGHTzINDEX+eTHUMBzRAISEDKNUCKLEz",
    "THUMB+aOUCHESTHUMBzUPtMIDDLEBENTOVERINDEXzDOWNzLITTLEzRAISEDKNUCKLE+aINGLITTLEzTHUMBANGLEDINDEXUP+kOUTINDEXCRO",
    "SSED+sUP+eCIRCLEDINDEXHINGED+qUP+fUPPEDINDEXUP+eHOOKEDINDEXUP+eLITTLEzUP+bTHUMBSIDEtRINGDOWNxINDEXxLITTLExMIDD",
    "LE+dCONJOINED+dRAISEDKNUCKLESxRAISEDKNUCKLExTHUMBxUPtTHUMByBETWEENINDEXMIDDLE+qSTRAIGHT+fMIDDLERING+fRINGLITTL",
    "EyFORWARDyHEELyOVERFOURRAISEDKNUCKLES+cTWOFINGERSySIDEBENT+cCONJOINED+cDIAGONALyUNDERFOURFINGERS+dINDEXBENT+dL",
    "ITTLEUP+dTHREEFINGERS+eWOFINGERSqLATtBETWEENPALMFACINGStFIVEFINGERSSPREAD+kBENT+kFOURBENT+kHINGED+qNOTHUMB+qTH",
    "UMBSIDE+kTHUMBFORWARDuOURFINGERS+eBENT+eCONJOINED+nSPLIT+eHINGEDtHEELxFIVEFINGERSSPREAD+oBENT+oFOURBENTxTHUMBS",
    "IDEtSPLITCENTRE+eTHUMBSIDE+nBENTyINDEXTHUMBSIDEyLITTLEtTHUMBBENTyFORWARDySIDEpHINGEuFIVEFINGERSSPREADOPENvOURF",
    "INGERSCONJOINEDuINDEXzHINGEDzMIDDLELITTLE+fRING+jCONJOINEDzRINGLITTLEzTHUMB+eLARGE+eOPEN+eSIDE+fMALLuLITTLE+aI",
    "NDEX+fTHUMB+aTHUMBuMIDDLE+aRINGLITTLEuNOTHUMBuOPENyNOTHUMByTHUMBFORWARD+dSIDEuRINGyDOWNINDEXTHUMBHOOKMIDDLEuSM",
    "ALLuTHUMBBETWEENMIDDLERINGzSIDE+dTOUCHINGINDEXqOOKtCURLICUEtINDEXRINGLITTLEIN+iOUT+iUNDERtMIDDLERINGLITTLECONJ",
    "OINED+sIN+sOUTzTHUMBtRINGTHUMBpOVALtFIVEFINGERSSPREADtINDEXtLITTLEUPtNOTHUMBtRINGLITTLEtTHUMBFORWARDySIDEmEADp",
    "MOVEMENTCIRCLExFLOORPLANECURVE+hSTRAIGHTxWALLPLANECURVE+gSTRAIGHT+gTILTpRIMlLIMBCOMBINATIONpLENGTH1v2v3v4v5v6v",
    "7nPLOWEROVERUPPERoSPRESSEDTOGETHERoUPPEROVERLOWERmOCATIONDEPTHtFLOORPLANESPACEtHEADNECKvIGHTtLIMBSDIGITStTORSO",
    "tWALLPLANESPACEuIDTHlMOUTHCLOSEDCONTACTwFORWARDwNEUTRALrORNERSqFROWNvOPENvWRINKLEDqKISSuFORWARDuWRINKLEDqOPENC",
    "IRCLEuFORWARDuOVALyWRINKLEDyYAWNuRECTANGLE+dWRINKLED+dYAWNuWRINKLEDqSMILEvOPENvWRINKLEDqTENSEvFORWARDvSUCKEDqW",
    "RINKLESDOUBLEySINGLEnVEMENTDIAGONALAWAYLARGE+kST+fMEDIUM+fSMALL+bBETWEENAWAYLARGE+rST+mMEDIUM+mSMALL+iTOWARDSL",
    "ARGE+uST+pMEDIUM+pSMALL+bTOWARDSLARGE+nST+iMEDIUM+iSMALLtFLOORPLANEARMCIRCLEHITTINGWALLLARGEDOUBLE++cSINGLE+xM",
    "EDIUMDOUBLE++dSINGLE+xSMALLDOUBLE++cSINGLE+dBEND+eOXLARGE+gMEDIUM+gSMALL+dCHECK+eORNERLARGE+jMEDIUM+jSMALL+eRO",
    "SS+eURVECOMBINED+iHITTINGCEILINGLARGE+wSMALL+pFLOORLARGE+uSMALL+iLARGE+nST+iMEDIUM+iSMALL+dDOUBLEALTERNATING+u",
    "WRISTFLEX+jSTRAIGHT+jWRISTFLEX+dFINGERCIRCLESHITTINGWALLDOUBLE++bSINGLE+kONTACT+dHUMPHITTINGCEILINGLARGEDOUBLE",
    "++aTRIPLE+vSMALLDOUBLE++aTRIPLE+oFLOORLARGEDOUBLE+tSMALLDOUBLE+tTRIPLELARGETRIPLE+zSMALLTRIPLE+hSMALL+dJAW+dLO",
    "OPHITTINGCEILINGLARGEDOUBLE++aSINGLE+vSMALLDOUBLE++aSINGLE+oFLOORLARGEDOUBLE+ySINGLE+tSMALLDOUBLE+ySINGLE+hSMA",
    "LL+dPEAKSLARGE+iMEDIUM+iSMALL+dSHAKINGPARALLEL+eINGLESTRAIGHTLARGE+wST+rMEDIUM+rSMALL+jWRISTFLEX+dTRIPLEALTERN",
    "ATINGMOVEMENT+uWRISTFLEX+jSTRAIGHTMOVEMENT+jWRISTFLEX+dWAVEHITTINGCEILINGLARGE+vSMALL+oFLOORLARGE+tSMALL+hLARG",
    "E+hSMALL+iNAKE+eRISTCIRCLEHITTINGWALLDOUBLE+zSINGLE+dZIGZAGLARGE+jMEDIUM+jSMALLtHINGEDOWNSEQUENTIALySIDETOSIDE",
    "SCISSORSyUPDOWNALTERNATINGLARGE+pSMALL+eLARGE+eSMALL+aSEQUENTIALtWALLPLANEARMCIRCLEMEDIUMDOUBLE+rSINGLE+lSMALL",
    "DOUBLE+qSINGLE+cBENDLARGE+gMEDIUM+gSMALL+dOXLARGE+fMEDIUM+fSMALL+cCHECKLARGE+hMEDIUM+hSMALL+dORNERLARGE+iMEDIU",
    "M+iROTATION+iSMALL+dROSS+dURVEDCROSSMEDIUM+nSMALL+hHALFCIRCLELARGE+wST+rMEDIUM+rSMALL+iITTINGCHEST+oFRONTWALL+",
    "hQUARTERLARGE+tST+oMEDIUM+oSMALL+hTHENSTRAIGHT+jREEQUARTERCIRCLEMEDIUM+zSMALL+cDOUBLEALTERNATING+tWRISTFLEX+iS",
    "TRAIGHT+iWRISTFLEX+cFINGERCIRCLESDOUBLE+pSINGLE+jONTACT+cHUMPHITTINGCHEST+nFRONTWALL+gLARGE+gMEDIUM+gSMALL+cJA",
    "W+cLOOPHITTINGCHEST+nFRONTWALL+gLARGE+gMEDIUM+gSMALL+lDOUBLE+cPEAKSLARGE+hMEDIUM+hSMALL+cSHAKING+dINGLESTRAIGH",
    "TLARGE+vST+qMEDIUM+qSMALL+iWRISTFLEX+cTRIPLEALTERNATING+tWRISTFLEX+iSTRAIGHTMOVEMENT+iWRISTFLEX+cWAVECURVEDOUB",
    "LELARGE+rMEDIUM+rSMALL+lTRIPLELARGE+rMEDIUM+rSMALL+gDIAGONALPATHLARGE+sMEDIUM+sSMALL+gHITTINGCHEST+nFRONTWALL+",
    "dRISTCIRCLEFRONTDOUBLE+sSINGLE+cZIGZAGLARGE+iMEDIUM+iSMALLlNECKmOSECONTACTpNEUTRALpWIGGLESqRINKLESlPARENTHESIS",
    "lROTATIONFLOORPLANEALTERNATING+oHITTINGCEILING+vFLOOR+dDOUBLE+jHITTINGCEILING+qFLOOR+dSINGLE+jHITTINGCEILING+q",
    "FLOORtMODIFIER10+c1+c2+c3+c4+c5+c6+b2+b3+b4+b5+b6+b7+b8+b9tWALLPLANEALTERNATE+kINGHITTINGCHEST+uFRONTWALL+cDOU",
    "BLE+iHITTINGCHEST+pFRONTWALL+cSINGLE+iHITTINGCHEST+pFRONTWALLmUBBETWEENoMULTIPLEoSINGLElSEMICOLONmHOULDERHIPPO",
    "SITIONSwSPINEtTILTINGFROMWAISTmQUEEZEFLICKALTERNATINGsLARGEMULTIPLExSINGLEsSEQUENTIALtMALLMULTIPLExSINGLEmTRIK",
    "EBETWEENrMULTIPLErSINGLEmURFACEBETWEENsSYMBOLSlTEETHqBITELIPSqMOVEMENTqONLIPSwMOVEMENTsTONGUEyMOVEMENTnNSECHEE",
    "KSHIGHwLOWwMIDDLEmONGUECENTREINSIDEMOUTHxSTICKINGOUTrINSIDEMOUTHRELAXEDrLICKINGLIPSrMOVESAGAINSTCHEEKrSTICKING",
    "OUTFARrTIPBETWEENLIPSuTOUCHINGINSIDEMOUTHnRSOFLOORPLANETWISTINGqWALLPLANECURVEDBENDzSTRAIGHTSTRETCHnUCHBETWEEN",
    "qMULTIPLEqSINGLEmRAVELFLOORPLANEROTATIONFLOORPLANEALTERNATING+tDOUBLE+tSINGLE+jWALLPLANEALTERNATING+sDOUBLE+sS",
    "INGLE+bSHAKINGrWALLPLANEARMSPIRALDOUBLE+jSINGLE+jTRIPLE+aROTATIONFLOORPLANEALTERNATING+sDOUBLE+sSINGLE+iWALLPL",
    "ANEALTERNATING+rDOUBLE+rSINGLE+aSHAKINGlUPPERBODYTILTINGFROMHIPJOINTSlWALLPLANESHOULDERHIPMOVEcLHOUETTEOFJAPAN",
    "cMILARABOVEGREATERTHANABOVEEQUALSSIGNmLESSTHANABOVEEQUALSSIGNhMINUSSIMILARhORGREATERTHANjLESSTHANcNEWAVEdGLECH",
    "ARACTERINTRODUCERgGRAPHICCHARACTERINTRODUCERgHIGHREVERSED9QUOTATIONMARKgLEFTPOINTINGANGLEQUOTATIONMARKhOW9QUOT",
    "ATIONMARKgRIGHTPOINTINGANGLEQUOTATIONMARKgSHIFT2l3lTHREEmWOdHALAARCHAICDIGITEIGHTtFIVEuOURtNINEtONEtSEVENuIXtT",
    "HREEuWOoNUMBEREIGHTYuFIFTYvORTYuNINETYuONEHUNDREDxTHOUSANDuSEVENTYvIXTYuTENvHIRTYvWENTYhLETTERAAYANNAoEEYANNAp",
    "YANNAoIYANNAoLPAPRAANABAYANNAxCAYANNAxDAYANNAyDAYANNAxGAYANNAxJAYANNAxKAYANNAxPAYANNAxTAYANNAyTAYANNAoMBABAYAN",
    "NAoUYANNAoYANNAnDANTAJALAYANNAuNAYANNAuSAYANNAnEEYANNAoYANNAnFAYANNAnHAYANNAnIIYANNAoLUUYANNAqYANNAoRUUYANNAqY",
    "ANNAoYANNAnKANTAJANAASIKYAYAnMAHAAPRAANABAYANNAyCAYANNAyDAYANNAzDAYANNAyGAYANNAyJAYANNAyKAYANNAyPAYANNAyTAYANN",
    "AzTAYANNApYANNAoUURDHAJALAYANNAwNAYANNAwSAYANNAnOOYANNAoYANNAnRAYANNAnSANYAKADAYANNAvDAYANNAuGAYANNAuJAYANNAnT",
    "AALUJANAASIKYAYAuSANYOOGANAAKSIKYAYAwYANNAnUUYANNAoYANNAnVAYANNAnYAYANNAiITHDIGITEIGHTqFIVErOURqNINEqONEqSEVEN",
    "rIXqTHREErWOqZEROhPUNCTUATIONKUNDDALIYAhSIGNALLAKUNAmNUSVARAYAlCANDRABINDUlVISARGAYAhVOWELSIGNAELAPILLAqDIGAAE",
    "DAPILLAuGAETTAPILLAwYANUKITTAuISPILLAuKOMBUVAuPAAPILLAqGAETTAPILLAsYANUKITTAqKETTIAEDAPILLAvISPILLAvPAAPILLArO",
    "MBUDEKAvVAxHAAAELAPILLA+aDIGAAELAPILLA+aGAYANUKITTAdTRIANGLEcXPEREMSPACEfTALLEDBLACKANDWHITEFLORETTEeOINTEDBLA",
    "CKSTARkPINWHEELSTARkSTARWITHMIDDLEDOTdTEENPOINTEDASTERISKbKATEBOARDcIANDSKIBOOTdERcULLfANDCROSSBONESdNKbLANTED",
    "EQUALTOORGREATERTHAN+bWITHDOTINSIDEqLESSTHANyWITHDOTINSIDEhNORTHARROWWITHHOOKEDHEADxRIZONTALTAILdVONICASTERISK",
    "cEDdEPINGACCOMMODATIONiFACEiSYMBOLfYFACEdUTHORSPYcICEOFPIZZAdGHTLYFROWNINGFACEiSMILINGFACEcOPEeINGLARGEANDmORd",
    "THeMACHINEbMALLAIRPLANEgMPERSANDgSTERISKfBLUEDIAMONDfCOLONhMMAjERCIALAThNTAINSASMEMBERnWITHOVERBARrVERTICALBAR",
    "ATENDOFHORIZONTALSTROKEfDOLLARSIGNfELEMENTOFoWITHOVERBARsVERTICALBARATENDOFHORIZONTALSTROKEgMDASHgQUALSSIGNgRT",
    "HANlOREQUALTOgXCLAMATIONMARKfFULLSTOPfGREATERTHANSIGNfHYPHENMINUSfIDEOGRAPHICCOMMAfLEFTCURLYBRACKETjPARENTHESI",
    "SjTORTOISESHELLBRACKEThSSTHANSIGNfNUMBERSIGNfORANGEDIAMONDfPERCENTSIGNgLUSSIGNfQUESTIONMARKfREVERSESOLIDUSgIGH",
    "TCURLYBRACKETkPARENTHESISkTORTOISESHELLBRACKETgOMANNUMERALEIGHTsLEVENrFIFTYtVEvHUNDREDsOURrNINErONEuHUNDREDuTH",
    "OUSANDrSEVENsIXrTENsHREEsWELVEtOfSEMICOLONfTILDEgWODOTSOVERONEDOTPUNCTUATIONfVEEWITHUNDERBARdSHPRODUCTcILEeING",
    "CATFACEWITHHEARTSHAPEDEYESsOPENMOUTHhFACEWITHHALOqEARTSHAPEDEYESqORNSpOPENMOUTHyANDCOLDSWEAT+bSMILINGEYES+bTIG",
    "HTLYCLOSEDEYESpSMILINGEYES+aANDHANDCOVERINGMOUTH+dTHREEHEARTSqUNGLASSESpTEARdRKINGFACEcOKINGSYMBOLbNAILdKEcEEZ",
    "INGFACEcOWBOARDEReCAPPEDMOUNTAINeFLAKEeMANhWITHOUTSNOWbOcCCERBALLdKScFTBALLeHYPHENeICECREAMeSHELLFLOPPYDISKeWA",
    "REFUNCTIONSYMBOLcGDIANCOMBININGCURVEABOVEvBELOWqDOTABOVEtBELOWqHOOKABOVEuBELOWqLONGHOOKBELOWqRESHBELOWqSTROKEB",
    "ELOWqTWODOTSABOVExBELOWhINDEPENDENTSHINhLETTERALEPHoYINnBETHnFETHnGIMELnHEpTHnKAPHnLAMEDHoESHnMEMnNUNnPEnRESHA",
    "YINnSADHEpMEKHoHINnTAWnWAWnYODHnZAYINhNUMBERONEqHUNDREDnTENoWENTYhPUNCTUATIONCIRCLEWITHDOTsHALFCIRCLEWITHDOTsT",
    "WOCIRCLESWITHDOTSvVERTICALBARS+hWITHDOTScHcLIDQUILTSQUAREORNAMENTyINBLACKSQUAREfUShWITHOVERBARcMSIGNcONWITHRIG",
    "HTWARDSARROWABOVEcRASOMPENGDIGITEIGHTqFIVErOURqNINEqONEqSEVENrIXqTHREErWOqZEROlLETTERAHrBAHrCAHrDAHrEEHsHrGAHr",
    "HAHrIHrJAHrKAHrLAHrMAEtHrNAHsGAHsYAHrOHrPAHrRAHrSAHrTAHrUHrVAHrYAHcScUNDRECORDINGCOPYRIGHTdTHEASTARROWoANDSOUT",
    "HWESTARROWoCROSSINGNORTHEASTARROWoTOCORNERoWITHHOOKjBLACKARROWjDOUBLEARROWjPOINTINGBUDrLEAFrVINELEAFjSANSSERIF",
    "ARROWjTRIANGLEHEADEDARROW+cTOBARjWHITEARROWfWESTARROWoANDNORTHWESTARROWoWITHHOOKjBLACKARROWjDOUBLEARROWjPOINTI",
    "NGBUDrLEAFrVINELEAFjSANSSERIFARROWjTRIANGLEHEADEDARROW+cTOBARjWHITEARROWcYOMBOCLUSTERINITIALLETTERLA+bRA+bSA+c",
    "HAhFINALCONSONANTSIGN-AzBzDzGzKzLzMzN+aGzRzS+aHhGEMINATIONMARKhHEADMARKWITHMOONANDSUN+dANDFLAME+gTRIPLEFLAMEhL",
    "ETTER-AnAnBAoHAnCAoHAnDAoDApHAoHAoZAnGAoHAnHAnJAoHAnKAoHAoSSAnLAnMAnNAoGAoNAoYAnPAoHAnRAnSAoHAoSAnTAoHAoSApHAo",
    "TApHAnVAnYAnZAoHAhMARKDOUBLESHADlPLUTAlSHADlTSHEGhSIGNANUSVARAlJIHVAMULIYAlUPADHMANIYAlVISARGAiUBJOINERhTERMIN",
    "ALMARK1t2hVOWELLENGTHMARKmSIGNAIrUqEqIqOrEqUrEqVOCALICLxRbPcAdCEdGHETTIdRKLEhSgINGHEARTcEAKERhWITHCANCELLATION",
    "STROKElONESOUNDWAVElTHREESOUNDWAVESfINGHEADINSILHOUETTEfNOEVILMONKEYdECHBALLOONeDBOATdSMILOSIGNcHERICALANGLEoO",
    "PENINGLEFTvUPcIDERgWEBdRALCALENDARPADgNOTEPADgSHELLcLASHINGSWEATSYMBOLcONGEdOLOFTHREADeNdRTSMEDALdUTINGWHALEbQ",
    "UAREAARUhMhNPEAhOVERMhPAATOhRUHUAhUgBAARERUiRhEETAhIRUhORUTOhQhUSSYERUgCALiPhChDhMiCUBEDiSQUAREDhOiRPORATIONiV",
    "ERKGhUPgDAiASUiSTERISKhBhCJKUNIFIEDIDEOGRAPH4E00+d9+c2D+c8C+cA4+a518D+b21D+c4D+c72+b3CC+cF3+b408+c39+b5B6+b8F0",
    "+b91A+c29+bB57+bDE6+bF8C+a624B+c53+c95+b307+c55+b599+cB0+b620+b708+d9+bE80+bF14+a7121+b51F+c33+b981+bA7A+bD42+",
    "a89E3+bCA9+bD70+a904A+b14DiLiOOLhDOTOPERATORhEIGHTKiSIhFALLINGDIAGONALSLASHiIVEPOINTONEiOURDOTPUNCTUATIONlKiRE",
    "EhHCiDRiIRESiVhIDhJhKATAKANADEpKOKOpSAiEYhLiATINCAPITALLETTERAzBzCzDzEzFzGzHzIzJzKzLzMzNzOzPzQzRzSzTzUzVzWzXzY",
    "zZmSMALLLETTERDiOGICALANDoORjSSLESShMiCUBEDiINUSiSQUAREDiVhNEWiGhOKiNEHUNDREDTWENTYPiRUhPLUSiPVhRISINGDIAGONAL",
    "SLASHhSALTIREiDiECONDSCREENjVENPOINTONEiHViIXTYPiMALLCIRCLEiOSiQUAREiShTHREEDiIMESiWENTYTWOPOINTTWOjOKhUHDiPWI",
    "THEXCLAMATIONMARKhVODiShWCgEEKAAhRANAMEHEISEInMEIZInREIWAnSYOUWAnTAISYOUiGhSUKUUDOhVgFMhOOTiURCORNERSgGALiNMAi",
    "RONhBhHZhIGAiNIIiRUDAAhPAhURAMUmTONhYgHAiITUhEKUTAARUiRUTUhGhIRAGANAHOKAhONiONjRUhPiAhUARADDOiIITOiRANhZgIMAGE",
    "OFnOREQUALTOpNOTEQUALTOhNiINGUiTIhUgKAiIRIiRATTOjORIIhBhCALhEESUhGhHZhIROkGURAMUkMEETORUkWATTOhKhLhMiCAPITALjU",
    "BEDiSQUAREDhOHMiOPOiRUNAhPAhThUROONEjUZEIROhVhWhYURIIgLEFTOPENBOXOPERATORhMhNhOGiZENGEhXgMAiHHAiIKUROjRUiNSYON",
    "iRUKUhBiSMALLhCUBEDhEETORUiGAkTONhGhHZhIKURONiLiRIkBAARUhLhMiCUBEDiSQUAREDhOHMiLiVERSmSQUAREDhPAhSiQUAREDhUAiF",
    "iGiLiMiSiViWhViMEGAhWiMEGAgNAiNOhFhMhOTTOhShVhWgONSUhOMUhRIGINALOFqOREQUALTOsNOTEQUALTOhVgPAiAMPSjSENTOjTUhChE",
    "EZIiNIHIjSUiSOhFhHhIASUTORUiKOjURUhMhOINTOiNDOiSITIONINDICATORhPMhRhShVhWgRADjOVERSoSQUAREDhEMUiNTOGENhIGHTOPE",
    "NBOXOPERATORiRAiTTORUhOOThUPIIiUBURUgSAIKURUiNTIIMUhENTIkOhIRINGUhRhVgTARGEThHZhONgUONgVOVERMgWATTOhBhITHBOTTO",
    "MHALFBLACKkCONTOUREDOUTLINEkDIAGONALCROSSHATCHFILLkHORIZONTALFILLkLEFTHALFBLACKlOWERLEFTDIAGONALHALFBLACKpRIGH",
    "TDIAGONALHALFBLACKkORTHOGONALCROSSHATCHFILLkRIGHTHALFBLACKkTOPHALFBLACKkUPPERLEFTDIAGONALHALFBLACKtTOLOWERRIGH",
    "TFILLpRIGHTDIAGONALHALFBLACKuTOLOWERLEFTFILLkVERTICALFILLgYAADOjRUhUANeTBLACKRIGHTWARDSARROWdIDbS2c3cAbTcADIUM",
    "dFFOFAESCULAPIUShHERMESdMPEDENVELOPEdNDINGPERSONdRANDCRESCENTeEQUALSeOFDAVIDfPERATOReTOFGUARDEDAREAhHEADINGhPR",
    "OTECTEDAREAhSELECTEDAREAiTRINGhTEXTeWITHLEFTHALFBLACKiRIGHTHALFBLACKdTIONeUEOFLIBERTYcEAMINGBOWLfLOCOMOTIVEdNO",
    "GRAPHICFULLSTOPdTHOSCOPEcICKFIGURElLEANINGLEFTsRIGHTlWITHARMSRAISEDpDRESScOCKCHARTdPWATCHcRAIGHTNESSiRULEReWBE",
    "RRYdESSOUTLINEDWHITESTARdICTLYEQUIVALENTTOeNGTERMINATORcScUDIOMICROPHONEdFFEDFLATBREADdPAcXbUBdSCRIPTEIGHTkQUA",
    "LSSIGNjFIVEkOURjLEFTPARENTHESISjMINUSjNINEjONEjPLUSSIGNjRIGHTPARENTHESISjSEVENkIXjTHREEkWOjZEROeETABOVERIGHTWA",
    "RDSARROWlSUBSETnPERSETgOFiABOVEALMOSTEQUALTOnEQUALSSIGNnNOTEQUALTOnTILDEOPERATORiOREQUALTOrWITHDOTABOVEiWITHNO",
    "TEQUALTOgWITHDOTkMULTIPLICATIONSIGNBELOWkPLUSSIGNBELOWeTITUTEcCCEEDSiABOVEALMOSTEQUALTOnEQUALSSIGNnNOTALMOSTEQ",
    "UALTOqEQUALTOnSINGLELINEEQUALSSIGNxNOTEQUALTOiBUTNOTEQUIVALENTTOiOREQUALTOnIVALENTTOiUNDERRELATIONcMMATIONBOTT",
    "OMjTOPjWITHINTEGRALcNdBEHINDCLOUDdDANESEAVAGRAHAjCONSONANTSIGNPAMINGKALyNYAKRA+aIKUySANGANMA+eWAjDIGITEIGHToFI",
    "VEpOURoNINEoONEoSEVENpIXoTHREEpWOoZEROjLETTERAqEqRCHAICIpBAqHApCApDApEqUpFAqINALKuMpGApHApIpJApKAqHApLAqEUpMAp",
    "NAqGAqYApOpPApQApRAqEUpSAqYApTApUpVApWApXApYApZAjPUNCTUATIONBINDUBASATANGAzCAKRAzDASATANGAzKASATANGAzLEUSATANG",
    "AzPANGLONG+aURNAMAzSURYAjSIGNPAMAAEHpNGLAYARrWISADqYECEKnVIRAMAjVOWELSIGNPAMEPETuNAELAENGvEULEUNGvGHULUvOLONGv",
    "YUKUdFLOWERdRISEhOVERMOUNTAINSdSETOVERBUILDINGSdWITHFACEcPERHEROfSCRIPTEIGHTmQUALSSIGNlFIVEmOURlLATINSMALLLETT",
    "ERI+bNmEFTPARENTHESISlMINUSlNINElONElPLUSSIGNlRIGHTPARENTHESISlSEVENmIXlTHREEmWOlZEROgETABOVELEFTWARDSARROWnSU",
    "BSETpPERSETiBESIDEANDJOINEDBYDASHWITHSUBSEToSUBSETiOFkABOVEALMOSTEQUALTOpEQUALSSIGNpNOTEQUALTOpTILDEOPERATORkO",
    "REQUALTOtWITHDOTABOVEkWITHNOTEQUALTOiPRECEDINGSOLIDUSiWITHDOTmMULTIPLICATIONSIGNBELOWmPLUSSIGNBELOWfVILLAINcRF",
    "ACEINTEGRALeERcSHIdPENSIONRAILWAYbWANdSHAMPERSANDORNAMENTcIMMERcUNGDASHbYLOTINAGRILETTERArBHOsOrCHOsOrDDHOtOsH",
    "OsOrErGHOsOrHOrIrJHOsOrKHOsOrLOrMOrNOrOrPHOsOrROsROrSOrTHOsOsTHOtOrUlPOETRYMARK1v2v3v4lSIGNALTERNATEHASANTAqNU",
    "SVARApDVISVARApHASANTAlVOWELSIGNAuEuIuOOuUcMBOLFORACKNOWLEDGEjBACKSPACEkELLjCANCELlRRIAGERETURNjDATALINKESCAPE",
    "kELETEpFORMTWOlVICECONTROLFOURwONEwTHREExWOjENDOFMEDIUMoTEXTpRANSMISSION+aBLOCKlQUIRYkSCAPEjFILESEPARATORkORMF",
    "EEDjGROUPSEPARATORjHORIZONTALTABULATIONjLINEFEEDjMARKSCHAPTERjNEGATIVEACKNOWLEDGElWLINEkULLjRECORDSEPARATORjSA",
    "MARITANSOURCEkHIFTINoOUTkPACEkTARTOFHEADINGqTEXTkUBSTITUTEtFORMTWOkYNCHRONOUSIDLEjTYPEAELECTRONICSjUNITSEPARAT",
    "ORjVERTICALTABULATIONdMETRYcNdAGOGUEdCHRONOUSIDLEcRIACABBREVIATIONMARKgBARREKHgCOLONSKEWEDLEFTrRIGHTiNTRACTION",
    "gDOTTEDZLAMAANGULARrHORIZONTALgENDOFPARAGRAPHhSASAABOVElBELOWgFEMININEDOTgHARKLEANASTERISCUSoMETOBELUSoOBELUSh",
    "BASAABOVElBELOWlESASADOTTEDhORIZONTALCOLONgLETTERALAPHmBETHmDALATHnOTLESSDALATHRISHmEmFINALSEMKATHmGAMALrGARSH",
    "UNImHEoTHmKAPHmLAMADHmMALAYALAMBHAvJAvLLAxLAvNGAwNAxNAwYAvRAvSSAvTTAnIMmNUNmPEoRSIANBHETHtDHALATHtGHAMALmQAPHm",
    "REVERSEDPEnISHmSADHEnEMKATHnHINnOGDIANFEtKHAPHtZHAINnUPERSCRIPTALAPHmTAWnETHqGARSHUNImWAWmYUDHqHEmZAINgMUSICgO",
    "BLIQUELINEABOVErBELOWgPTHAHAABOVEmBELOWmDOTTEDgQUSHSHAYAgRBASAABOVElBELOWhUKKAKHAhWAHAgSUBLINEARCOLONuSKEWEDLE",
    "FT+aRIGHTpFULLSTOPiPRALINEARCOLONwSKEWEDLEFTrFULLSTOPgTHREEDOTSABOVEpBELOWhWOVERTICALDOTSABOVEvBELOWgZQAPHAABO",
    "VEmBELOWmDOTTEDeNGE"]

/-- The names that start with T. -/
def namesT : List String :=
  ["aTABdLETENNISPADDLEANDBALLcCOcGALOGLETTERAoRCHAICRAnBAnDAnGAnHAnInKAnLAnMAnNAoGAnPAnRAnSAnTAnUnWAnYAhSIGNPAMUD",
    "PODlVIRAMAhVOWELSIGNIqUeMPERSANDePOSTROPHEeSTERISKdBANWALETTERAoBAoDAoGAoIoKAoLAoMAoNApGAoPAoSAoTAoUoWAoYAiVOW",
    "ELSIGNIrUdCIRCUMFLEXACCENTeOLONfMMAhERCIALATdDIGITEIGHTiFIVEjOURiNINEiONEiSEVENjIXiTHREEjWOiZEROeOLLARSIGNdEQU",
    "ALSSIGNeXCLAMATIONMARKdFULLSTOPdGRAVEACCENTfEATERTHANSIGNdHYPHENMINUSdLATINCAPITALLETTERAvBvCvDvEvFvGvHvIvJvKv",
    "LvMvNvOvPvQvRvSvTvUvVvWvXvYvZiSMALLLETTERAtBtCtDtEtFtGtHtItJtKtLtMtNtOtPtQtRtStTtUtVtWtXtYtZeEFTCURLYBRACKEThP",
    "ARENTHESIShSQUAREBRACKETfSSTHANSIGNeOWLINEdNUMBERSIGNdPERCENTSIGNeLUSSIGNdQUESTIONMARKfOTATIONMARKdREVERSESOLI",
    "DUSeIGHTCURLYBRACKETiPARENTHESISiSQUAREBRACKETdSEMICOLONeOLIDUSePACEdTILDEdVERTICALLINEcILELETTERAmImUElEmEmHl",
    "FAlHAlIlKAmHAlLAlMAlNAmGAlOmOlPAmHAlQAlSAlTAmHAmONE2p3p4p5p6mSAnHAlUmElVAlXAlYAdTHAMCOMBININGCRYPTOGRAMMICDOTj",
    "NSONANTSIGNBAuFINALNGAuHIGHRATHAORLOWPAuLATANGLAIvOWPAuMAvEDIALLA+aRAuSAhHORADIGITEIGHTqFIVErOURqNINEqONEqSEVE",
    "NrIXqTHREErWOqZEROhLETTERAnBAnDAnEEnGREATSAnHIGHCAsHArFArHArKAsHAsXArPAsHArRATHArSAsHAsSArTAsHArYAnIoInLApEoLA",
    "oOWCArHAqFAqHAqKArHArXAqPArHAqRATHAqSAqTArHAqYAoUEnMAnNAoGAoYAnOOnRApNApTAoUEnUoUnWAhSIGNCAANGlDOKMAIlHANGmOYl",
    "KAANpKUUmEOWmHUENLUEKARANqTONE3u4u5lMAIKANGsLAIoSAMoYAMOKlRAHAAMmEVERSEDROTATEDRANAlSAKOTnTKAANsKUUnWANlTONE1p",
    "2lWIANGqWAAKhTHAMDIGITEIGHTqFIVErOURqNINEqONEqSEVENrIXqTHREErWOqZEROhVOWELSIGNArArErIqEqIrIqMAISATqOrAABOVEsBE",
    "LOWrOrYqTALLAArHAMAIqUrErUsEdVIETLETTERHIGHBOrCHOsOrDOrFOrGOrHOrKHHOtOsOrLOrMOrNGOsOsYOrOrPHOsOrROrSOrTHOsOrVO",
    "rYOnLOWBOqCHOrOqDOqFOqGOqHOqKHHOsOrOqLOqMOqNGOrOrYOqOqPHOrOqROqSOqTHOrOqVOqYOhMAIKANGlHIThSYMBOLHOHOInKOIKOIpN",
    "nNUENGnSAMhTONEMAIEKoNUENGoSONGoTHOhVOWELAAnMnNnUEnYmEmInAmOmUnAnEoAcKEOUTBOXdRIABBREVIATIONSIGNfDIGITEIGHTkFI",
    "VElOURkNINEkONEkSEVENlIXkTHREElWOkZEROfLETTERAmAmImRCHAICKHAmUlBAmHAlCAmHAlDAmDAnHAmHAlElGAmHAlHAlImIlJAmHAlKA",
    "mHAlLAlMAlNAmGAmNAmYAlOlPAmHAlRAmRAlSAmHAlTAmHAmTAnHAlUmUlVAlYAfSIGNANUSVARAjNUKTAjVIRAMAlSARGAfVOWELSIGNAApIp",
    "UoEoIpIoOoUpUcLLYMARKFIVEjONEcMALEdILANDODDSIGNgSABOVESIGNgULENGTHMARKfCREDITSIGNgURRENTSIGNfDAYSIGNgEBITSIGNg",
    "IGITEIGHTkFIVElOURkNINEkONEkSEVENlIXkTHREElWOkZEROgRYCULTIVATIONSIGNfFRACTIONDOWNSCALINGFACTORKIIZHnONEEIGHTHv",
    "IETHqFIFTHrORTIETHqHALF1u2qONEHUNDREDANDSIXTIETHqQUARTERqSIXTEENTH1z2uYFOURTHqTENTHrHIRTYSECONDsREEHUNDREDANDT",
    "WENTIETHrWENTIETHnTHREEEIGHTIETHSsQUARTERSsSIXTEENTHSwYFOURTHSsTWENTIETHSfINPOSSESSIONSIGNfLANDSIGNgETTERAmAmI",
    "mUlCAlEmElHAlImIlJAlKAlLAmLAnLAlMAlNAmGAmNAnNAmYAlOmOlPAlRAmRAlSAmHAmSAlTAmTAlUmUlVAlYAfMONTHSIGNfNUMBERONEHUN",
    "DREDoTHOUSANDlSIGNlTENfOMfPUNCTUATIONENDOFTEXTfRUPEESIGNfSALTPANSIGNgIGNAAZHAAKKUkNUSVARAjCEVITUjKAACUkURUNIlZ",
    "HIjMUKKURUNIlTHALIYAlUVUZHAKKUjNELjPAARAMlNAMlTHAKKUkONjUZHAKKUjVAKAIYARAAlRAAKANkELIkIRAMAlSARGAgPENTSIGNgTAR",
    "TINGFROMSIGNfTOTALSIGNgRADITIONALCREDITSIGNqNUMBERSIGNfVOWELSIGNAApIpUoEpEoIpIoOpOoUpUfWETCULTIVATIONSIGNfYEAR",
    "SIGNcNABATATREEdGERINEeSADIGITEIGHTlFIVEmOURlNINElONElSEVENmIXlTHREEmWOlZEROgLETTERACnQnWCoQoXoZnXnZmBAmCAnHAm",
    "DAnHAmECnQnXnZmFAnINALNGmGAnHAmHAnTAoTAmICnQnXnZmKAnHAmLAnONGUEXmMAnCnQnXnZmNAnGAnHAnYAmOCnQnXnZmPAnHAmRAmSAnH",
    "AoORTAWXrUEZmTAnHAnSAmUCnECoQoXoZnICoQoUCpQpXpZoXoZnQnXnZmVCnQnXnZmWAmXAmYAmZAeUTCOMPONENT001r2r3r4r5r6r7r8r9q",
    "10r1r2r3r4r5r6r7r8r9q20r1r2r3r4r5r6r7r8r9q30r1r2r3r4r5r6r7r8r9q40r1r2r3r4r5r6r7r8r9q50r1r2r3r4r5r6r7r8r9q60r1r",
    "2r3r4r5r6r7r8r9q70r1r2r3r4r5r6r7r8r9q80r1r2r3r4r5r6r7r8r9q90r1r2r3r4r5r6r7r8r9p100r1r2r3r4r5r6r7r8r9q10r1r2r3r",
    "4r5r6r7r8r9q20r1r2r3r4r5r6r7r8r9q30r1r2r3r4r5r6r7r8r9q40r1r2r3r4r5r6r7r8r9q50r1r2r3r4r5r6r7r8r9q60r1r2r3r4r5r6",
    "r7r8r9q70r1r2r3r4r5r6r7r8r9q80r1r2r3r4r5r6r7r8r9q90r1r2r3r4r5r6r7r8r9p200r1r2r3r4r5r6r7r8r9q10r1r2r3r4r5r6r7r8",
    "r9q20r1r2r3r4r5r6r7r8r9q30r1r2r3r4r5r6r7r8r9q40r1r2r3r4r5r6r7r8r9q50r1r2r3r4r5r6r7r8r9q60r1r2r3r4r5r6r7r8r9q70",
    "r1r2r3r4r5r6r7r8r9q80r1r2r3r4r5r6r7r8r9q90r1r2r3r4r5r6r7r8r9p300r1r2r3r4r5r6r7r8r9q10r1r2r3r4r5r6r7r8r9q20r1r2",
    "r3r4r5r6r7r8r9q30r1r2r3r4r5r6r7r8r9q40r1r2r3r4r5r6r7r8r9q50r1r2r3r4r5r6r7r8r9q60r1r2r3r4r5r6r7r8r9q70r1r2r3r4r",
    "5r6r7r8r9q80r1r2r3r4r5r6r7r8r9q90r1r2r3r4r5r6r7r8r9p400r1r2r3r4r5r6r7r8r9q10r1r2r3r4r5r6r7r8r9q20r1r2r3r4r5r6r",
    "7r8r9q30r1r2r3r4r5r6r7r8r9q40r1r2r3r4r5r6r7r8r9q50r1r2r3r4r5r6r7r8r9q60r1r2r3r4r5r6r7r8r9q70r1r2r3r4r5r6r7r8r9",
    "q80r1r2r3r4r5r6r7r8r9q90r1r2r3r4r5r6r7r8r9p500r1r2r3r4r5r6r7r8r9q10r1r2r3r4r5r6r7r8r9q20r1r2r3r4r5r6r7r8r9q30r",
    "1r2r3r4r5r6r7r8r9q40r1r2r3r4r5r6r7r8r9q50r1r2r3r4r5r6r7r8r9q60r1r2r3r4r5r6r7r8r9q70r1r2r3r4r5r6r7r8r9q80r1r2r3",
    "r4r5r6r7r8r9q90r1r2r3r4r5r6r7r8r9p600r1r2r3r4r5r6r7r8r9q10r1r2r3r4r5r6r7r8r9q20r1r2r3r4r5r6r7r8r9q30r1r2r3r4r5",
    "r6r7r8r9q40r1r2r3r4r5r6r7r8r9q50r1r2r3r4r5r6r7r8r9q60r1r2r3r4r5r6r7r8r9q70r1r2r3r4r5r6r7r8r9q80r1r2r3r4r5r6r7r",
    "8r9q90r1r2r3r4r5r6r7r8r9p700r1r2r3r4r5r6r7r8r9q10r1r2r3r4r5r6r7r8r9q20r1r2r3r4r5r6r7r8r9q30r1r2r3r4r5r6r7r8r9q",
    "40r1r2r3r4r5r6r7r8r9q50r1r2r3r4r5r6r7r8r9q60r1r2r3r4r5r6r7r8gITERATIONMARKcPECARTRIDGEeDRIVEcURUScXIbEACUPWITH",
    "OUTHANDLEdPOTdRDROPBARBEDRIGHTWARDSARROWiSPOKEDASTERISKeOFFCALENDARcDDYBEARcLEPHONELOCATIONSIGNjONTOPOFMODEMjR",
    "ECEIVERrWITHPAGEmORDERjSIGNeSCOPEeVISIONdUGUAILENGTHMARKgDIGITEIGHTlFIVEmOURlNINElONElSEVENmIXlTHREEmWOlZEROgF",
    "RACTIONDIGITONEFOREVENPOWERSOFFOURzODDPOWERSOFFOURtTHREEFOREVENPOWERSOFFOUR+bODDPOWERSOFFOURuWOFOREVENPOWERSOF",
    "FOURzODDPOWERSOFFOURtZEROFORODDPOWERSOFFOURgLENGTHMARKiTTERAnAnInUmBAnHAmCAnHAmDAnDAoHAnHAnZAmEnEmGAnHAmHAmInI",
    "mJAnHAmKAnHAmLAnLAoLAmMAmNAoKAARAPOLLUnGAnNAnYAmOnOmPAnHAmRAnRAoRAmSAnHAnSAmTAnHAnSAnTAoHAmUnUmVAnOCALICLuLtRu",
    "RmYAgSIGNANUSVARAlVAGRAHAkCANDRABINDUlOMBININGANUSVARAABOVEtCANDRABINDUABOVEkNUKTAkSIDDHAMkTUUMUkVIRAMAmSARGAg",
    "VOWELSIGNAAqIqUpEqEpIqIpOqOpUqUpVOCALICLxLwRxRcNGESIGNdNISRACQUETANDBALLdTcSTTUBEcTRAGRAMFORACCUMULATIONnDVANC",
    "EnGGRAVATIONnSCENTmBARRIERnOLDRESOLUTIONnRANCHINGOUTmCENTREnHANGEnLOSEDMOUTHrNESSqUREnOMPLETIONrIANCEoNSTANCYp",
    "TACTqENTIONqRARIETYmDARKENINGnECISIVENESSoFECTIVENESSORDISTORTIONoPARTUREnIFFICULTIESoMINISHMENTpMINGoVERGENCE",
    "nOUBTnUTIESmEASEnMBELLISHMENTnNCOUNTERSoDEAVOURoLARGEMENTnTERNITYnXHAUSTIONmFAILUREnLIGHTnOLLOWINGoSTERINGnULL",
    "CIRCLEqNESSmGATHERINGvINnOINGTOMEETnREATNESSnUARDEDNESSmHARDNESSnOLDINGBACKmINCREASEoNERmJOYmKEEPINGSMALLnINSH",
    "IPmLABOURINGoWORMODELnEGIONmMASSINGnEASUREnIREDmONTHEVERGEnPPOSITIONmPACKINGoTTERNnENETRATIONnURITYmREACHoLEAS",
    "EoSIDENCEqSTANCEpPONSEnITUALmSEVERANCEnINKINGnTOPPAGEpVEoRENGTHmUNITYmVASTNESSORWASTINGmWAITINGoTCHmYOUTHFULNE",
    "SSbHAANAAABAAFILIhBAFILIgEBEFILIhEBEEFILIhYBEYFILIgIBIFILIgLETTERAINUnLIFUmBAAmCHAVIYANImDAADHUoVIYANInHAALUmF",
    "AAFUmGAAFUnHAINUnNAVIYANImHAAnHAAmJAVIYANImKAAFUnHAAmLAAMUnHAVIYANImMEEMUmNAAnOONUmPAVIYANImQAAFUmRAAmSAADHUnE",
    "ENUnHAVIYANIoEENUmTAVIYANInHAAqLUnOnTAAmVAAVUmWAAVUmYAAmZAAoVIYANInOgOABOAFILIhBOFILIhOBOOFILIgSUKUNgUBUFILIdI",
    "CHARACTERANGKHANKHUnBOBAIMAInCHOCHANuGsINGsOEnDOCHADApDEKnFOFArNpNGMANnHOHIPpNOKHUKnKHOKHAIsONsUATsWAIqMUTqRAK",
    "HANGoOKAInLAKKHANGYAOoOCHULApLINGoUnMAICHATTAWAqEKqHANAKATqTAIKHUrHOrRIqYAMOKoOMAnNGONGUoIKHAHIToONENqUnOANGnP",
    "AIYANNOIoHINTHUpOPHANsUNGqSAMPHAOoOPLAnRORUAoUnSARAAsAsEsIMAIMALAIxUANsMrErIsIrOrUsEtEsUoORUSIpSALAqOqUAnTHANT",
    "HAKHATpONANGMONTHOqPHUTHAOqTHAHANtNsONGsUNGoOPATAKpTAOnWOWAENnYAMAKKANoOYAKqINGfURRENCYSYMBOLBAHTeDIGITEIGHTjF",
    "IVEkOURjNINEjONEjSEVENkIXjTHREEkWOjZEROcEREDOESNOTEXISTfEXISTSfFOREeMODYNAMICgMETERcINGREEKCROSSeKINGFACEeSALT",
    "IREfPACEdRDPLACEMEDALcONGSANDALdUGHTBALLOONcREEBUTTONMOUSEfCONSECUTIVEEQUALSSIGNSfDBOTTOMLIGHTEDRIGHTWARDSARRO",
    "WHEADgIMENSIONALANGLEgLEFTLIGHTEDDOWNWARDSEQUILATERALARROWHEADgOTPUNCTUATIONgRIGHTLIGHTEDUPWARDSEQUILATERALARR",
    "OWHEADgTOPLIGHTEDLEFTWARDSEQUILATERALARROWHEADqRIGHTWARDSARROWHEAD+aEQUILATERALARROWHEADfEMDASHfLEFTWARDSARROW",
    "SgINESCONVERGINGLEFTuRIGHTfNETWORKEDCOMPUTERSfPEREMSPACEgOINTEDBLACKSTARfRAYSABOVEjBELOWjLEFTjRIGHTgIGHTWARDSA",
    "RROWSfSPEECHBUBBLEScUMBSDOWNSIGNgUPSIGNdNDERCLOUDANDRAINhSTORMbIBETANASTROLOGICALSIGN-KHYUDPAxSDONGTSHUGSyGRAG",
    "CAN-CHARRTAGShCANTILLATIONSIGNCANGTEUxHEAVYBEATxLIGHTBEATxSBUB-CHALhDIGITEIGHTmFIVEnOURmHALFEIGHTqFIVErOURqNIN",
    "EqONEqSEVENrIXqTHREErWOqZEROmNINEmONEmSEVENnIXmTHREEnWOmZEROhKURUKHAoBZHIMIGCANhLETTER-AnAnBAoHAnCAoHAnDAoDApH",
    "AoHAoZApHAnFIXEDFORMRAnGAoHAnHAnJAnKAoHAoKAoSSAnLAnMAnNAoGAoNAoYAnPAoHAnRAoRAnSAoHAoSAnTAoHAoSApHAoTApHAnWAnYA",
    "nZAoHAiOGOTYPESIGNCHADRTAGStLHAGRTAGShMARKANGKHANGGYASvONlBKA-SHOGGIMGORGYANtYIGMGOmSDUSRTAGSnKA-SHOGGIMGORGYA",
    "NoURYIGMGOlCARET-DZUDRTAGSBZHIMIGCAN+aMELONGCANqYIGMGOPHURSHADMAmHEMGOmLOSINGBRDARNYINGYIGMGOSGABMAsYIGMGOSGAB",
    "MAlDELIMITERTSHEGBSTARlGTERTSHEGpYIGMGO-UMGTERTSHEGMAyRNAMBCADMAvTRUNCATEDAmUGRTAGSGYASvONlHALANTAlINITIALBRDA",
    "RNYINGYIGMGOMDUNMAsYIGMGOMDUNMAnTERSYLLABICTSHEGlLEADINGMCHANRTAGSlMNYAMYIGGIMGORGYANlNGASBZUNGNYIZLAuSGORRTAG",
    "SmYISSHADpTSHEGuSHADlPALUTAlRGYAGRAMSHADmINCHENSPUNGSSHADlSBRULSHADmHADlTRAILINGMCHANRTAGSmSA-PHRUnHEGSHADlYIG",
    "MGOTSHEGSHADMAhSIGNGRUCANRGYINGSoMEDRGYINGSlINVERTEDMCHUCANlLCETSACANnIRTAGSlMARTSHESmCHUCANlNYIZLANAADAlRDELD",
    "KARGCIGuNYISuSUMtRDELNAGpNAGGCIGtNYIStSUMsRDELDKARmJESSUNGAROmNAMBCADlSNALDANlYANGRTAGSnRTSHESiUBJOINEDLETTER-",
    "AwAwBAxHAwCAxHAwDAxDAyHAxHAxZAyHAwFIXEDFORMRA+fWA+fYAwGAxHAwHAwJAwKAxHAxSSAwLAwMAwNAxGAxNAxYAwPAxHAwRAwSAxHAxS",
    "AwTAxHAxSAyHAxTAyHAwWAwYAwZAxHAqSIGNINVERTEDMCHUCANuLCETSACANuMCHUCANiYLLABLEOMjMBOLDRILBUnNORBUsBZHI-KHYILsGS",
    "UM-KHYILsNYIS-KHYILnPADMAGDANoHURPAnRDORJEtRGYAGRAMhVOWELSIGNAAqErEqIrIqOrOqREVERSEDIzIqUrUqVOCALICLyLxRyRcCKE",
    "TcEOVERINFINITYcFINAGHCONSONANTJOINERiLETTERAHAGGARYAZHpYERYAGHoBERBERACADEMYYAH+dJoTAWELLEMETYAZpUAREGYAGHxNw",
    "HwKxHwNGwQwZHoYAqAqBrHqCHqDrDsHrHqFqGrHsHqHrHqJqKrHsHqLqMqNqPqQqRrRqSrHrSqTrHrTqVqWqYqZrHrZpEqYpIpOpUiMODIFIER",
    "LETTERLABIALIZATIONMARKiSEPARATORMARKcGERfFACEdHTTRIFOLIATESNOWFLAKEcLDEfOPERATORnABOVELEFTWARDSARROWsRIGHTWAR",
    "DSARROWnWITHDOTABOVErRISINGDOTSfWITHDOTABOVEmBELOWjRINGABOVEcMERCLOCKeSWITHLEFTHALFBLACKjRIGHTHALFBLACKcNYeTWO",
    "DOTSOVERONEDOTPUNCTUATIONcREDFACEdHUTAABBREVIATIONSIGNiNJIhDIGITEIGHTmFIVEnOURmNINEmONEmSEVENnIXmTHREEnWOmZERO",
    "hGVANGhLETTERAoAoIoUnBAoHAnCAoHAnDAoDApHAoHAnEnGAoHAnHAnIoInJAoHAnKAoHAnLAnMAnNAoGAoNAoYAnOnPAoHAnRAnSAoHAoSAn",
    "TAoHAoTApHAnUoUnVAoOCALICLvLuRvRnYAhOMhSIGNANUSVARAmVAGRAHAlCANDRABINDUlNUKTAlVIRAMAnSARGAhVOWELSIGNAArIrUqEqI",
    "rIqOqSHORTEvOqUrUqVOCALICLyLxRyRdONIANSIGNCAPITALETmETbOILETcKYOTOWERcMATOcNGUEcOLBOXdTHfBRUSHcPARCANTICLOCKWI",
    "SEARROWyWITHPLUSgCLOCKWISEARROWWITHMINUSdCURLYBRACKETdHALFBLACKCIRCLEhINTEGRALhLEFTPARENTHESIShRIGHTPARENTHESI",
    "ShSECTIONSIGNfTdLEFTCORNERiROPhHALFBRACKETdPARENTHESISdRIGHTCORNERjROPiHALFBRACKETdSQUAREBRACKETdTORTOISESHELL",
    "BRACKETdWITHUPWARDSARROWABOVEcRTOISESHELLBRACKETEDCJKUNIFIEDIDEOGRAPH4E09+r8C+p52DD+qB89+p6253+q557+q72C+p70B9",
    "+q6D7wLATINCAPITALLETTERScTALRUNOUTdOLETTERAlEkBAlREATHYAErEsOrIsUkCHAkDAkElOkGAkHAkIlUkJAkKAkLAkMAkNAlGAkOkPA",
    "kRAkSAkTAkUkWAkYAeSIGNRISINGTONEbRACKBALLeTORdDEMARKSIGNdINdMeCARdNSPLUTOfVERSALINTERSECTIONcEXcIANGLEHEADEDRI",
    "GHTWARDSARROWiWITHDOTABOVEmROUNDEDCORNERSmSERIFSATBOTTOMmUNDERBARgULARBULLETkFLAGONPOSTkRULERdCOLONdDENTEMBLEM",
    "dGRAMFOREARTHkFIREkHEAVENkLAKEkMOUNTAINkTHUNDERkWATERlINDdPLECOLONOPERATORgDAGGERgHORIZONTALBARWITHDOUBLEVERTI",
    "CALSTROKExTRIPLEVERTICALSTROKEgINTEGRALgNESTEDGREATERTHANmLESSTHANgPLUShRIMEgSOLIDUSBINARYRELATIONgTILDEgVERTI",
    "CALBARBINARYRELATIONrDELIMITERrRIGHTTURNSTILErWITHHORIZONTALSTROKEcOLLfEYBUSdPHYeICALDRINKiFISHcUEeLIGHTMOONAR",
    "TAdMPETbSHIRTbUGRIKSIGNcLIPcMBLERGLASScRKEYeISHLIRASIGNdNEDAMPERSANDhNGLEgBLACKPENTAGONlSHOGIPIECEgCAPITALFhOM",
    "MAgDAGGERhIGITTHREEmWOgGREEKSMALLLETTERIOTAgNORTHEASTPOINTINGLEAFlWESTPOINTINGLEAFiTSIGNgOKHANDSIGNgSANSSERIFC",
    "APITALGwLwYhEMICOLONhMALLFhOUTHEASTPOINTINGLEAFlWESTPOINTINGLEAFgWHITESHOGIPIECEdTLEbWELVEPOINTEDBLACKSTARcIST",
    "EDRIGHTWARDSARROWScOASTERISKSALIGNEDVERTICALLYdBUTTONMOUSEdCONSECUTIVEEQUALSSIGNSdDOTLEADERgPUNCTUATIONgSOVERO",
    "NEDOTPUNCTUATIONdEMDASHdHEARTSdINTERSECTINGLOGICALANDwORdJOINEDSQUARESdLOGICALANDOPERATORkOROPERATORdMENHOLDIN",
    "GHANDSdSPEECHBUBBLESdWOMENHOLDINGHANDS"]

/-- The names that start with U. -/
def namesU : List String :=
  ["aUGARITICLETTERAINpLPAoBETAoDELTApHALoGAMLApHAINoHOqTAoIoKAFpHAoLAMDAoMEMoNUNoPUoQOPAoRASHAoSADEqMKApHINpSUoTE",
    "TpHANNApOoUoWOoYODoZETApUiWORDDIVIDERbMBRELLAiONGROUNDiWITHRAINDROPSbNAMUSEDFACEcCERTAINTYSIGNcDERTIEdOSYMBOLc",
    "ICORNFACEdONfABOVEBARABOVEINTERSECTIONkINTERSECTIONfBESIDEANDJOINEDWITHUNIONfWITHLOGICALORjMINUSSIGNjOVERBARdT",
    "EDSYMBOLeSEPARATORdVERSALRECYCLINGSYMBOLcMARRIEDPARTNERSHIPSYMBOLbPARROWHEADlBETWEENTWOHORIZONTALBARSlINARECTA",
    "NGLEBOXhTHROUGHCIRCLEcBARBLEFTDOWNBARBLEFTHARPOONsRIGHTHARPOONgRIGHTDOWNBARBLEFTHARPOONtRIGHTHARPOONcDOWNARROW",
    "lWITHBASEgBLACKARROWgDOUBLEARROWgSANSSERIFARROWgTRIANGLEHEADEDARROWgWHITEARROWcFISHTAILcPERANDLEFTANDLOWERTRIA",
    "NGULARTHREEQUARTERSBLOCKjOWERONEEIGHTHBLOCKnTRIANGULARHALFBLOCKiRIGHTANDLOWERTRIANGULARTHREEQUARTERSBLOCKfBLAD",
    "ESCISSORSfFIVEEIGHTHSBLOCKfHALFBLOCKoANDLOWERHALFINVERSEMEDIUMSHADEjCIRCLEjINVERSEMEDIUMSHADEANDLOWERHALFBLOCK",
    "qWHITECIRCLEjMEDIUMSHADEfLEFTBLOCKDIAGONALLOWERCENTRETOLOWERMIDDLERIGHT+jUPPERMIDDLERIGHT+oRIGHT+bLEFTTOLOWERM",
    "IDDLERIGHT+hUPPERCENTRE+mMIDDLERIGHT+bMIDDLELEFTTOUPPERCENTRE+sMIDDLERIGHT+sRIGHTwUPPERMIDDLELEFTTOUPPERCENTRE",
    "+sRIGHTjCORNERWITHDOTjORLOWERRIGHTCURLYBRACKETSECTIONjQUADRANTCIRCULARARCjTOLOWERRIGHTFILLkRIANGLEpULARMEDIUMS",
    "HADEfONEEIGHTHBLOCKiQUARTERBLOCKfRIGHTBLOCKDIAGONALLOWERMIDDLELEFTTOLOWERCENTRE+tRIGHTxUPPERCENTRETOLOWERMIDDL",
    "ERIGHT+pRIGHT+kUPPERMIDDLERIGHT+cLEFTTOLOWERCENTRE+nMIDDLERIGHT+iUPPERMIDDLERIGHT+cMIDDLELEFTTOLOWERCENTRE+tMI",
    "DDLERIGHT+tRIGHTkDROPSHADOWEDWHITESQUAREkORLOWERLEFTCURLYBRACKETSECTIONkPENCILkQUADRANTCIRCULARARCkSHADOWEDWHI",
    "TECIRCLExSQUAREkTOLOWERLEFTFILLlRIANGLEqULARMEDIUMSHADEfSEVENEIGHTHSBLOCKfTHREEEIGHTHSBLOCKkQUARTERSBLOCKgRIAN",
    "GULARONEQUARTERBLOCKdOINTINGAIRPLANEkMILITARYAIRPLANEkREDTRIANGLEkSMALLAIRPLANEpREDTRIANGLEkTRIANGLEWITHLEFTHA",
    "LFBLACKwRIGHTHALFBLACKcRIGHTDIAGONALELLIPSIScSIDEDOWNFACEcTACKgWITHCIRCLEABOVEcWARDSANCORAiRROWmANDRIGHTONEEIG",
    "HTHBLOCKmFROMBARmLEFTWARDSOFDOWNWARDSARROWmTOBARmWITHDOUBLESTROKEqEQUILATERALARROWHEADqHORIZONTALSTROKEqLARGET",
    "RIANGLEARROWHEADqMEDIUMTRIANGLEARROWHEADqNOTCHEDTAILqSMALLEQUILATERALARROWHEADvTRIANGLEARROWHEADqTIPLEFTWARDSt",
    "RIGHTWARDShBLACKARROWmCIRCLEDWHITEARROWhCOMPRESSEDARROWhDASHEDARROWiOUBLEARROWhFINGERPOSTARROWhHARPOONWITHBARB",
    "LEFTBESIDEDOWNWARDSHARPOONWITHBARBRIGHT+gUPWARDSHARPOONWITHBARBRIGHT+aFROMBAR+aTOBAR+aWARDSwRIGHTFROMBAR+bTOBA",
    "R+bWARDSiEAVYARROWmCOMPRESSEDARROWhPAIREDARROWShQUADRUPLEARROWhROCKEThSANSSERIFARROWiQUAREDARROWhTRIANGLEARROW",
    "HEADpHEADEDARROW+aLEFTWARDSOFDOWNWARDSTRIANGLEHEADEDARROW+aTOBAR+aWITHBOLDSHAFT+eDOUBLEHORIZONTALSTROKE+eHEAVY",
    "SHAFT+eLONGTIPLEFTWARDS+lRIGHTWARDS+eMEDIUMSHAFT+eNARROWSHAFT+eVERYHEAVYSHAFTvDASHEDARROWvPAIREDARROWSkPLEARRO",
    "WiWOHEADEDARROWvFROMSMALLCIRCLEvWITHTRIANGLEARROWHEADShWHITEARROWrFROMBARyWITHHORIZONTALBARrONPEDESTAL+bWITHHO",
    "RIZONTALBAR+fVERTICALBARrWITHINTRIANGLEARROWHEADmDOUBLEARROWxONPEDESTALbRANUSbS"]

/-- The names that start with V. -/
def namesV : List String :=
  ["aVAICOMMAdDIGITEIGHTiFIVEjOURiNINEiONEiSEVENjIXiTHREEjWOiZEROdFULLSTOPdQUESTIONMARKdSYLLABLEAmNlBAmEnEmHAnEoEn",
    "InOoOnUmImOnOmUlCAmEnEmImOnOmUlDAmEnEmHAnEoEnHAoEpEoIoOpOoUnInOoOnUmImOnOmUlEmEnNmNlFAmEnEmImOnOmUlGAmBAnEoEoN",
    "nInOoNoOnUmEnEnNmImOnOmUlHAnNmEnEnNmInNmOnNnOmUnNlImNlJAmEnEmImOnOmUlKAnNmEnEmImOnOmPAoNnEoEoNnInOoOnUmUlLAmEn",
    "EnNGTHENERmImOnOmUlMAmBAnEoEnInOoOnUmEnEmGBAoEpEoIoOpOoUmImOnOmUlNAmDAnEoEnInOoLEDOqFAqKAqMAqSOOoOnUmEnEmGnANn",
    "ENnGAoEpEpNoIoOpOoUnONmImJAnEoEnInOoOnUmOnOmUmYAnEoEnInOoOnUlOmNmOnNlPAmEnEmImOnOmUlRAmEnEmImOnOmUlSAmEnEmHAnE",
    "oEnInOoOnUmImOnOmUlTAmEnEmHAnEoEnInOoOnUmImOnOmUlUmNlVAmEnEmImOnOmUlWAnNmEnEoNnNmInNmOnNnOoNmUnNlYAmEnEmImOnOm",
    "UlZAmEnEmHAnEoEnInOoOnUmImOnOmUfMBOLBANGjDANGkOOmNGjFAAkEENGjJONGjKEENGkUNGjNIIjTAAkINGkONGcMPIREcRIATIONSELEC",
    "TOR1s0t0t1t2t3t4t5t6t7t8t9s1t0t1t2t3t4t5t6t7t8t9s2t0t1t2t3t4t5t6t7t8t9s3t0t1t2t3t4t5t6t7t8t9s4t0t1t2t3t4t5t6t7",
    "t8t9s5t0t1t2t3t4t5t6t7t8t9s6t0t1t2t3t4t5t6t7t8t9s7t0t1t2t3t4t5t6t7t8t9s8t0t1t2t3t4t5t6t7t8t9s9t0t1t2t3t4t5t6t7",
    "t8t9r2s0t0t1t2t3t4t5t6t7t8t9s1t0t1t2t3t4t5t6t7t8t9s2t0t1t2t3t4t5t6t7t8t9s3t0t1t2t3t4t5t6t7t8t9s4t0t1t2t3t4t5t6",
    "t7t8t9s5t0t1t2t3t4t5t6s6s7s8s9r3s0s1s2s3s4s5s6s7s8s9r4s0s1s2s3s4s5s6s7s8s9r5s0s1s2s3s4s5s6s7s8s9r6s0s1s2s3s4s5",
    "s6s7s8s9r7s0s1s2s3s4s5s6s7s8s9r8s0s1s2s3s4s5s6s7s8s9r9s0s1s2s3s4s5s6s7s8s9bECTORORCROSSPRODUCTcDICSIGNANUSVARA",
    "ANTARGOMUKHArBAHIRGOMUKHArUBHAYATOMUKHArVAMAGOMUKHA+cWITHTAILkRDHAVISARGAkTIKRAMAjDOUBLEANUSVARAANTARGOMUKHAjH",
    "EXIFORMLONGANUSVARAjJIHVAMULIYAjLONGANUSVARAjNIHSHVASAjREVERSEDVISARGAANUDATTAyUDATTAkOTATEDARDHAVISARGAkTHANG",
    "LONGANUSVARAjTIRYAKjUPADHMANIYAjVISARGAANUDATTAyWITHTAILqSVARITAqUDATTAwWITHTAILjYAJURVEDICMIDLINESVARITAfTONE",
    "ATHARVAVEDICINDEPENDENTSVARITAjCANDRAABOVEpBELOWjDOTBELOWlUBLERINGABOVEpSVARITAjKARSHANAlTHAKAANUDATTAjPRENKHA",
    "jRIGVEDICKASHMIRIINDEPENDENTSVARITAlNGABOVEjSHARAjTHREEDOTSBELOWkRIPLESVARITAkWODOTSBELOWjYAJURVEDICAGGRAVATED",
    "INDEPENDENTSVARITAtINDEPENDENTSVARITAtKATHAKAINDEPENDENTSVARITA+sSCHROEDERcRSICLEdTICALBARBESIDERIGHTTRIANGLEl",
    "DOUBLELEFTTURNSTILElTRIPLERIGHTTURNSTILElWITHHORIZONTALSTROKEiELLIPSISiFOURDOTSiIDEOGRAPHICITERATIONMARKiKANAR",
    "EPEATMARKwLOWERHALFwUPPERHALFsWITHVOICEDSOUNDMARK+lUPPERHALFiLINEmEXTENSIONmWITHCIRCLEABOVEwBELOWqMIDDLEDOTiMA",
    "LEWITHSTROKESIGNiONEEIGHTHBLOCK2w3w4w5w6w7iSIXDOTSiTABKEYlULATIONsSETjILDEjRAFFICLIGHTiZIGZAGLINEdYBOLDGREEKCR",
    "OSSeHEAVYEIGHTPOINTEDBLACKSTARoSPOKEDASTERISKjFIVESPOKEDASTERISKjGREEKCROSSjREVERSESOLIDUSjSALTIREkIXSPOKEDAST",
    "ERISKkOLIDUSjWHITECIRCLEoSQUAREeMUCHGREATERTHANiLESSTHANcSTAbIBRATIONMODEcCTORYHANDcDEOCAMERAhSSETTEfGAMEcETNA",
    "MESEALTERNATEREADINGMARKCA+eNHAYdWDATASQUAREcOLINcRGOcTHKUQICAPITALLETTERAvBBEwEvCEwHEvDEwHEvEwIvFEvGAvHAwHAvI",
    "wJEvJEvKAvLAwLAvMEvNEwJEvOvPEvQAvREvSEwHEvTEwHEvUvVEvXEvYvZEiSMALLLETTERAtBBEuEtCEuHEtDEuHEtEuItFEtGAtHAuHAtIu",
    "JEtJEtKAtLAuLAtMEtNEuJEtOtPEtQAtREtSEuHEtTEuHEtUtVEtXEtYtZEbOIDEDGREEKCROSScLCANOdLEYBALLdUMEINTEGRALbS1d0e0e1",
    "e2e3e4e5e6e7e8e9d1e0e1e2e3e4e5e6e7e8e9d2e0e1e2e3e4e5e6e7e8e9d3e0e1e2e3e4e5e6e7e8e9d4e0e1e2e3e4e5e6e7e8e9d5e0e1",
    "e2e3e4e5e6e7e8e9d6e0e1e2e3e4e5e6e7e8e9d7e0e1e2e3e4e5e6e7e8e9d8e0e1e2e3e4e5e6e7e8e9d9e0e1e2e3e4e5e6e7e8e9c2d0e0",
    "e1e2e3e4e5e6e7e8e9d1e0e1e2e3e4e5e6e7e8e9d2e0e1e2e3e4e5e6e7e8e9d3e0e1e2e3e4e5e6e7e8e9d4e0e1e2e3e4e5e6e7e8e9d5e0",
    "e1e2e3e4e5e6d6d7d8d9c3d0d1d2d3d4d5d6d7d8d9c4d0d1d2d3d4d5d6d7d8d9c5d0d1d2d3d4d5d6d7d8d9c6d0d1d2d3d4d5d6d7d8d9c7",
    "d0d1d2d3d4d5d6d7d8d9c8d0d1d2d3d4d5d6d7d8d9c9d0d1d2d3d4d5d6d7d8d9bTcSbULCANUSdGARFRACTIONFIVEEIGHTHSsSIXTHSpOUR",
    "FIFTHSoONEEIGHTHrFIFTHrHALFrNINTHrQUARTERrSEVENTHsIXTHrTENTHsHIRDoSEVENEIGHTHSoTHREEEIGHTHStFIFTHStQUARTERSpWO",
    "FIFTHSrTHIRDSoZEROTHIRDS"]

/-- The names that start with W. -/
def namesW : List String :=
  ["aWAFFLEcNCHODIGITEIGHTlFIVEmOURlNINElONElSEVENmIXlTHREEmWOlZEROgLETTERAnAoNpGnNGnUmBAmCAmDAmEnNmFAmGAmHAmInNGm",
    "JAmKAnHAmLAnLHAmMAmNAnGAnYAmOnNoGmPAnHAmRAmSAnHAmTAnHAnRAnSAmUnENmVAmWAmYAnIHmZAgNGUNSIGNgTONEKOInNIkTUPnNIdIN",
    "GCRESCENTMOONSYMBOLgGIBBOUSMOONSYMBOLcRANGCITICAPITALLETTERAyMyNGyTxBUxDAxEyNNzYxGAxHARyIYOyOLOzRRxIIxKOxNGAAy",
    "UNGxOyDDxPUxSIIySUUxTTExUCyUxVIYOxWIxYAyOyUzJkDIGITEIGHTpFIVEqOURpNINEpONEpSEVENqIXpTHREEqWOpZEROkNUMBEREIGHTY",
    "qFIFTYrORTYqNINETYqSEVENTYrIXTYqTENrHIRTYrWENTYkOMkSMALLLETTERAwMwNGwTvBUvDAvEwNNxYvGAvHARwIYOwOLOxRRvIIvKOvNG",
    "AAwUNGvOwDDvPUvSIIwSUUvTTEvUCwUvVIYOvWIvYAwOwUxJdNINGSIGNcSTEBASKETcTCHdERBUFFALOfCLOSETfMELONfPOLOfWAVEcVEARR",
    "OWPOINTINGDIRECTLYLEFTzRIGHTeDASHdINGBLACKFLAGgHANDSIGNgWHITEFLAGdYDASHeLINEfOWLINEeOVERLINEcXINGCRESCENTMOONS",
    "YMBOLgGIBBOUSMOONSYMBOLbEARYCATFACEfFACEcDDINGdGETAILEDRIGHTWARDSARROWcIERSTRASSELLIPTICFUNCTIONdGHTLIFTERcSTS",
    "YRIACCROSSbHALEcEELfCHAIRSYMBOLfOFDHARMAcITEARROWSHAFTWIDTHONEuTWOTHIRDSfBULLETfCHESSBISHOPqROTATEDNINETYDEGRE",
    "ESxTWOHUNDREDSEVENTYDEGREESkEQUIHOPPERuROTATEDNINETYDEGREESkKINGoROTATEDNINETYDEGREESvTWOHUNDREDSEVENTYDEGREES",
    "lNIGHTqBISHOPqQUEENqROOKsTATEDFORTYFIVEDEGREESxNINETYDEGREESxONEHUNDREDTHIRTYFIVEDEGREESxTHREEHUNDREDFIFTEENDE",
    "GREESyWOHUNDREDSEVENTYDEGREES+hTWENTYFIVEDEGREESkPAWNoROTATEDNINETYDEGREESvTWOHUNDREDSEVENTYDEGREESkQUEENpROTA",
    "TEDNINETYDEGREESwTWOHUNDREDSEVENTYDEGREESkROOKoROTATEDNINETYDEGREESvTWOHUNDREDSEVENTYDEGREESkTURNEDBISHOPqKING",
    "rNIGHTqPAWNqQUEENqROOKgIRCLElCONTAININGBLACKSMALLCIRCLElWITHDOTRIGHTrWNARROWpLOWERLEFTQUADRANTuRIGHTQUADRANTpT",
    "WODOTSpUPPERLEFTQUADRANTuRIGHTQUADRANTgLUBSUITgONCAVESIDEDDIAMONDyWITHLEFTWARDSTICK+cRIGHTWARDSTICKfDIAMONDmCO",
    "NTAININGBLACKMEDIUMDIAMOND+bSMALLDIAMOND+bVERYSMALLDIAMONDmINSQUAREmSUITmWITHCENTREDDOTgOWNPOINTINGBACKHANDIND",
    "EXrINDEXrLEFTHANDINDEXrSMALLTRIANGLErTRIANGLEgRAUGHTSKINGnMANfEXCLAMATIONMARKORNAMENTfFEATHEREDRIGHTWARDSARROW",
    "gLAGjWITHHORIZONTALMIDDLEBLACKSTRIPEhORETTEiWERgOURPOINTEDCUSPqSTARgROWNINGFACEfHARDSHELLFLOPPYDISKgEARTkSUITi",
    "VYCHECKMARKkSALTIREWITHROUNDEDCORNERShXAGONgORIZONTALELLIPSEhURGLASSfLARGESQUAREhTINCROSSgEFTLANEMERGEjPOINTIN",
    "GBACKHANDINDEXrINDEXrPOINTERrSMALLTRIANGLErTRIANGLEgOZENGECONTAININGBLACKSMALLLOZENGEfMEDIUMDIAMONDlLOZENGElSM",
    "ALLSQUAREmQUAREmTARgOONSELENAfNIBfPARALLELOGRAMgENNANTiTAGONfQUESTIONMARKORNAMENTfRECTANGLEgIGHTPOINTINGBACKHA",
    "NDINDEXsINDEXsPENTAGONtOINTERsSMALLTRIANGLEsTRIANGLEfSCISSORSgESAMEDOTgHOGIPIECEgMALLLOZENGEkSQUARElTARhILINGF",
    "ACEgPADESUITgQUARElBUTTONlCONTAININGBLACKMEDIUMSQUARE+aSMALLSQUARE+aVERYSMALLSQUARElWITHCENTREVERTICALLINEpLEF",
    "TWARDSTICKqOWERLEFTQUADRANTuRIGHTQUADRANTpRIGHTWARDSTICKqOUNDEDCORNERSpUPPERLEFTQUADRANTuRIGHTQUADRANTpVERTICA",
    "LBISECTINGLINEgTARgUNiBEHINDCLOUDtWITHRAINiWITHRAYSmSMALLCLOUDfTELEPHONEgOUCHTONETELEPHONEgRAPEZIUMhIANGLECONT",
    "AININGSMALLWHITETRIANGLEgWOWAYLEFTWAYTRAFFICfUPPOINTINGBACKHANDINDEXpCHEVRONpINDEXpSMALLTRIANGLEpTRIANGLExWITH",
    "DOTfVERTICALBARnELLIPSEnRECTANGLEiYSMALLSQUAREbIDEHEADEDDOWNWARDSBARBARROWtHEAVYBARBARROWtLIGHTBARBARROWtMEDIU",
    "MBARBARROWtVERYHEAVYBARBARROWkLEFTWARDSBARBARROWtHEAVYBARBARROWtLIGHTBARBARROWtMEDIUMBARBARROWtVERYHEAVYBARBAR",
    "ROWkNORTHEASTBARBARROWtHEAVYBARBARROWtLIGHTBARBARROWtMEDIUMBARBARROWtVERYHEAVYBARBARROWpWESTBARBARROWtHEAVYBAR",
    "BARROWtLIGHTBARBARROWtMEDIUMBARBARROWtVERYHEAVYBARBARROWkRIGHTWARDSBARBARROWuHEAVYBARBARROWuLIGHTBARBARROWuMED",
    "IUMBARBARROWuVERYHEAVYBARBARROWkSOUTHEASTBARBARROWtHEAVYBARBARROWtLIGHTBARBARROWtMEDIUMBARBARROWtVERYHEAVYBARB",
    "ARROWpWESTBARBARROWtHEAVYBARBARROWtLIGHTBARBARROWtMEDIUMBARBARROWtVERYHEAVYBARBARROWkUPWARDSBARBARROWrHEAVYBAR",
    "BARROWrLIGHTBARBARROWrMEDIUMBARBARROWrVERYHEAVYBARBARROWcGGLYVERTICALLINEcLTEDFLOWERcNDBLOWINGFACEeCHIMEeOWdEG",
    "LASSdGdKINGFACEcREDKEYBOARDeLESSbJbOLFFACEcMANfSBOOTSgCLOTHESgHATgSANDALfWITHBUNNYEARSdENSSYMBOLcNSIGNcODcRDJO",
    "INEReSEPARATORMIDDLEDOTdLDMAPdMdRIEDFACEbRAPPEDPRESENTcEATHPRODUCTdNCHdSTLERScITINGHAND"]

/-- The names that start with X. -/
def namesX : List String :=
  ["aXIANGQIBLACKCANNONnHARIOTmELEPHANTmGENERALmHORSEmMANDARINmSOLDIERhREDCANNONlHARIOTkELEPHANTkGENERALkHORSEkMAN",
    "DARINkSOLDIERcNARECTANGLEBOXbORbRAY"]

/-- The names that start with Y. -/
def namesY : List String :=
  ["aYAWNINGFACEbELLOWHEARTcNSIGNcZIDICOMBININGHAMZAMARKpMADDAMARKgHYPHENATIONMARKgLETTERBEmCHHIMoIMnIMmDADoLmELIF",
    "nTnWnYNmFAmGAFmHAYnHAmJAmKAFnHAFmLAMpWITHDOTABOVEmMIMmNUNmOWmPEnHEmQAFmRAnHAmSADnEnHINnINmTAnHEmUMmVAoALTERNAT",
    "EFORMmWAWmXAnHEYNmYOTpWITHCIRCUMFLEXABOVEmZAoLnEbINYANGcRADICALBBUTkURjCHEkIPkUOPkYlPlTjDDURkUjGAkEPkGOPlUOkOT",
    "jHMOkXITlOPlUOjJJIElUTlYkOjKEkITjLIlEkYRjMIkOPjNBIEkYIPlOPkZUPjOPjPUTkYTjQOTjSHATlOPlURlYkSIjTATkUjVEPkURjWOjY",
    "ITkOjZAkOTkUPlRkZIETcSYLLABLEAlPlTlXkBAmPmTmXlBAnPnTnXmEnPnXmInEoPoToXnPnTnXmOnPnTnXmUnOoPoXnPnRoXnTnXmYnPnTnX",
    "lEmPmXlImEnPnTnXmPmTmXlOmPmTmXlUmOnPnXmPmRnXmTmXlYmPmRnXmTmXkCAmPmTmXlEmPmXlHAnPnTnXmEnPnTnXmOnPnTnXmUnOoPoToX",
    "nPnRoXnXmYnPnRoXnTnXlImEnPnTnXmPmTmXlOmPmTmXlUmOnPnXmPmRnXmTmXlYmPmRnXmTmXkDAmPmTmXlDAnPnTnXmEnPnXmInEoPoXnPnT",
    "nXmOnPnTnXmUnOoPoXnPnRoXnTnXlEmPmXlImEnPnXmPmTmXlOmPmTmXlUmOnXmPmRnXmTmXkElXkFAmPmTmXlImPmTmXlOmPmXlUmPmRnXmTm",
    "XlYmPmTmXkGAmPmTmXlEmPmTmXlGAnPnTnXmEnPnTnXmInEoPoXnTnXmOnPnTnXmUnOoPoToXnPnRoXnTnXlImEnPnTnXmPmTmXlOmPmTmXlUm",
    "OnPnTnXmPmRnXmTmXkHAmPmTmXlEmPmXlIEnXmTlLAnPnTnXmEnPnXmInEoPoXnPnTnXmOnPnXmUnOoPoXnPnRoXnTnXmYnPnRoXnTnXlMAnPn",
    "TnXmInEoPoXnPnTnXmOnPnTnXmUnOoPoXnPnRoXnTnXmYnPnRoXnXlNAnPnTnXmEnPnXmInEoPoToXnPnTnXmOPnTnXmUOoXnTlOmPmTmXlUOn",
    "PnTnXlXAnPnTnXmEnPnXmInEoPoToXnPnTnXmOnPnTnXmUOoPoToXkIlEmPmTmXlPlTmERATIONMARKlXkJImEnPnTnXmPmTmXlJInEoPoToXn",
    "PnTnXmOnPnTnXmUnOoPoXnPnRoXnTnXmYnPnTnXlOmPmTmXlUmOnPnTnXmPmRnXmTmXlYmPmRnXmTmXkKAmPmTmXlEmPmTmXlImEnPnXmPmTmX",
    "lOmPmTmXlUmOnPnXmPmRnXmTmXkLAmPmTmXlEmPmXlImEnPnTnXmPmTmXlOmPmTmXlUmOnPnTnXmPmRnXmTmXlYmPmRnXmTmXkMAmPmTmXlEmX",
    "lGAnPnTnXmEnPnXmIEoXmOnPnTnXmUnOoPoXnPnRoXnTnXlImEnPnXmPmTmXlOmPmTmXlUmOnPnTnXmPmRnXmTmXlYmPmTmXkNAmPmXlBAnPnT",
    "nXmInEoPoXnPnTnXmOnPnTnXmUnPnRoXnTnXmYnPnRoXnTnXlDAnPnTnXmEnPnXmInEoXnPnTnXmOnPnTnXmUnPnRoXnTnXlEmPmXlGAnPnTnX",
    "mEnPnXmIEoPoXmOnPnTnXmUOoToXlImEnPnXmPmTmXlJInEoPoToXnPnTnXmOnPnTnXmUnOoXnPnRoXnXmYnPnRoXnTnXlOmPmTmXlRAnPnTnX",
    "mEnPnTnXmOnPnXmUnPnRoXnTnXmYnPnRoXnTnXlUmOnPnXmPmRnXmTmXlYInEoPoToXnPnTnXmOnPnTnXmUnOoPoXnPnTnXlZAnPnTnXmEnXmI",
    "nEoPoXnPnTnXmOPnXmUnOoXnPnRoXnXmYnPnRoXnTnXkOlPlTlXkPAmPmTmXlImEnPnXmPmTmXlOmPmTmXlUmOnPnXmPmRnXmTmXlYmPmRnXmT",
    "mXkQImEnPnTnXmPmTmXlOmPmTmXlUmOnPnTnXmPmRnXmTmXlYmPmRnXmTmXkRAmPmTmXlEmPmXlOmPmTmXlRAnXmEnPnTnXmOnPnTnXmUnOoXn",
    "PnRoXnTnXmYnPnRoXnTnXlUmOnPnXmPmRnXmTmXlYmPmRnXmTmXkSAmPmTmXlEmPmXlHAnPnTnXmEnPnTnXmOnPnTnXmUnOoPoXnPnRoXnTnXm",
    "YnPnRoXnTnXlImEnPnXmPmTmXlOmPmTmXlSAnPnTnXmEnPnXmInEoPoXnPnTnXmOnPnTnXmUnPnTnXmYnPnRoXnTnXlUmOnPnXmPmRnXmTmXlY",
    "mPmRnXmTmXkTAmPmTmXlEmPmXlImEnPnXmPmTmXlOmPmTmXlUmOnPnTnXmPmRnXmTmXkUOmPmXkVAmPmTmXlEPmXlImEnPnTnXmPmTmXlOmPmT",
    "mXlUmPmRnXmTmXlYmPmRnXmTmXkWAmPmTmXlEmPmXlOmPmXlUmOnPnXkXImEnPnTnXmPmTmXlOmPmTmXlUOnXlYmPmRnXmTmXkYImEnPnTnXmP",
    "mTmXlOmPmTmXlUmOnPnTnXmPmRnXmTmXlYmPmRnXmTmXkZAmPmTmXlEmPmXlHAnPnTnXmEnPnTnXmOnPnTnXmUnOoPoXnPnRoXnTnXmYnPnRoX",
    "nTnXlImEnPnXmPmTmXlOmPmTmXlUmOnPnXmPmRnXmTmXlYmPmRnXmTmXlZAnPnTnXmEnPnXmInEoPoToXnPnTnXmOnPnXmUnPnRoXnXmYnPnRo",
    "XnTnXbOYO"]

/-- The names that start with Z. -/
def namesZ : List String :=
  ["aZANABAZARSQUARECLOSINGDOUBLELINEDHEADMARKwHEADMARKrUSTERFINALLETTERLA+hRA+hVA+hYAwINITIALLETTERRApFINALCONSON",
    "ANTMARKpINITIALDOUBLELINEDHEADMARKwHEADMARKpLETTER-AvAvBAwHAvCAwHAvDAwDAxHAwHAwZAxHAvGAwHAvHAvJAvKAwHAwSSAvLAv",
    "MAvNAwGAwNAwYAvPAwHAvRAvSAwHAwSAvTAwHAwSAxHAwTAxHAvVAvYAvZAwHApMARKDOUBLESHADtLONGTSHEGtSHADtTSHEGpSIGNANUSVAR",
    "AtCANDRABINDU+eWITHORNAMENTzWITHORNAMENTtVIRAMAvSARGAqUBJOINERpVOWELLENGTHMARKuSIGNAIzUyEyIyOzEyREVERSEDIyUzEb",
    "EBRAFACEcROWIDTHJOINERjNOBREAKSPACElNJOINERjSPACEcUSbIPPERMOUTHFACEbNAMENNYCOMBININGATTACHINGVERTICALOMETrLOWE",
    "RTONALRANGEINDICATORrMARKBORZAYAvCHASHKA+cPOLNAYAwURVEDOMETvDEMESTVENNYZADERZHKAwVOETOCHIEvGORAZDONIZKOONLEFT+",
    "jRIGHT+hSKRYZHEMONLEFT+rRIGHT+cVYSOKOvKACHKAwRYZH+aONLEFTwUPNAYAvLOMKAvMALOPOVYSHEONLEFT+iRIGHT+gSKHOKHLOMONLE",
    "FT+rRIGHT+iRYZHEM+hTRANNOvNIZKOONLEFT+cRIGHT+aSKRYZHEMONLEFT+kRIGHTvOBLACHKOwNwTSECHKAvPODCHASHIE+fWITHVERTICA",
    "LSTROKEyVERTKAxVYSHEONLEFT+eRIGHT+cSKHOKHLOMONLEFT+nRIGHT+eRYZHEM+dTRANNOvRAVNOxZSEKAvSKOBAwOROCHYANOZHKAwREDN",
    "EONLEFT+dRIGHTwTRANNOMALOPOVYSHEvTIKHAYAwOCHKAwSATAONLEFT+cRIGHT+aSKRYZHEMvUDARKAvVYSOKOONLEFT+dRIGHT+bSKHOKHL",
    "OMONLEFT+mRIGHT+dRYZHEMvZADERZHKAwELOxVOKrTONALRANGEMARKMRACHNO+fSVETLO+fTRESVETLOiNEUMECHASHKApELYUSTKAnDEMES",
    "TVENNYKLYUCHpRBITSAoOUBLEZAPYATAYAoUDAoVAVCHELNUnFITAnGOLUBCHIKBORZYwMRACHNYwSVETLYwTIKHYxRESVETLYnKHAMILOoLYU",
    "CHoOBYLAoRYUKsTIKHYqZHoUFISMAnMECHIKtKLYUCHENEPOSTOYANNY+aPOVODNY+aVOYtPOVODNYnNEMKAnOBLAKOoSOKAsKLYUCHEVAYANE",
    "POSTOYANNAYA+dSVETLAYAtRYUKOVAYASVETLAYAsSVETLAYAsTRESVETLAYAnPALKApRAKLITpUKoEREVODKAwNEPOSTOYANNAYAoODCHASHI",
    "EpLKULIZMYnREVERSEDCHELYUSTKAoOGnSKAMEYTSADVOECHELNAYAKLYUCHEVAYA+iNEPOSTOYANNAYA+iPROSTAYA+iSVETLAYAwKLYUCHEN",
    "EPOSTOYANNAYA+dVAYASVETLAYA+hTIKHAYAwMRACHNAYAwSVETLAYAwTIKHAYAxRESVETLAYAoLOZHITIEwSKRYZHEMxZAPYATOYwZAKRYTOE",
    "oTATYAtNEPOSTOYANNAYAtSDVUMYAZAPYATYMIuKRYZHEM+bIZAPYATOYuROGOMuZAPYATOY+cIKRYZHEM+dPODCHASHIEMtZAKRYTAYA+cSZA",
    "PYATOYpOPITSAvSOCHKOMvWITHSOROCHYANOZHKApRELADVOECHELNAYA+fKLYUCHEVAYA+cOKRYZHEVAYA+dPOVODNAYA+mKLYUCHEVAYAtGR",
    "OMNAYA+bWITHSINGLEZAPYATAYAxOKRYZHEVAYA+iPOVODNAYAyPOVODNAYA+hWITHDOUBLEZAPYATAYA+lSINGLEZAPYATAYAtKLYUCHENEPO",
    "STOYANNAYA+aPOVODNAYAuRYUKOVAYA+dGROMNAYA+lWITHSINGLEZAPYATAYA+hOKRYZHEVAYA+sPOVODNAYA+iPOVODNAYA+rWITHDOUBLEZ",
    "APYATAYA+vSINGLEZAPYATAYA+dPOVODNAYA+dTRYASKAwZHEVAYAtMRACHNOTIKHAYAtNEPOSTOYANNAYAtPOLUPOVODNAYAvVODNAYAuROST",
    "AYAtTIKHAYAPUTNAYAuRYASOGLASNAYAzPOVODNAYAzSTRELNAYAnVRAKHIYAKLYUCHEVAYAMRACHNAYA+gPROSTAYA+gSVETLAYA+gTRESVET",
    "LAYAvMRACHNAYAvPROSTAYAvSVETLAYAvTRESVETLAYAnZANOZHEKpPYATAYAoMEYTSAiPRIZNAKMODIFIERDIRECTIONFLIPxKRYZHxLEVEL2",
    "+c3xROGcOTATIONBAGMEMBERSHIPjDOMAINANTIRESTRICTIONjLEFTBINDINGBRACKETnIMAGEBRACKETjRANGEANTIRESTRICTIONkELATIO",
    "NALCOMPOSITIONkIGHTBINDINGBRACKEToIMAGEBRACKETjSCHEMACOMPOSITIONpPIPINGqROJECTIONkPOTjTYPECOLONbOMBIEbWJcNBSPd",
    "JcSP"]

end CharacterName

end Text

end PythonAudit
